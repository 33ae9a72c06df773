import MeshTrace.Propagation

/-!
# What becomes of a message that a frame is put in front of

Putting a frame in front of a message has two ends.  Where the message has room, it
goes out with the frame in front of its bytes; where it has none, it goes out as it
was, provided that room already made can be taken away again (`inject_of_hasRoom`,
`inject_of_not_hasRoom`).

`Propagated` lists all that a propagation can lead to, with everything that it reads
and changes, and `propagate_propagated` says that nothing else happens.  Later proofs
go through its three cases and never unfold the propagation itself.
-/

namespace MeshTrace

namespace Message

/-- Bytes can be put in front of the message and written: growing succeeds, and the
new bytes are addressable afterwards. -/
def HasRoom (msg : Message) (count : Nat) : Prop :=
  msg.canGrow ∧
    count ≤ (withinWindow (List.replicate count 0 ++ msg.bytes) msg.reshapedWindow).length

instance (msg : Message) (count : Nat) : Decidable (msg.HasRoom count) := by
  unfold HasRoom
  infer_instance

/-- A message that grows and is addressable as a whole afterwards has room. -/
theorem hasRoom_of_grow? {msg grown : Message} {count : Nat}
    (hgrow : msg.grow? count = some grown) (haddressable : grown.addressable = grown.bytes) :
    msg.HasRoom count := by
  unfold grow? at hgrow
  split at hgrow
  · rename_i hcan
    cases hgrow
    refine ⟨hcan, ?_⟩
    simp only [addressable] at haddressable
    rw [haddressable]
    simp
  · cases hgrow

/-- Bytes inside the window of a message are bytes of the message. -/
theorem slice?_of_addressable {msg : Message} {offset count : Nat} {piece : List UInt8}
    (h : Bytes.slice? msg.addressable offset count = some piece) :
    Bytes.slice? msg.bytes offset count = some piece := by
  obtain ⟨n, htake⟩ := msg.addressable_eq_take
  rw [htake] at h
  obtain ⟨hfit, -⟩ := Bytes.slice?_eq_some_iff.mp h
  rw [← List.take_append_drop n msg.bytes, Bytes.slice?_append _ hfit]
  exact h

end Message

/-- The propagator reads back the offset that a pass saved, if there is a slot for it and the
offset is not too large. -/
theorem ArgSlots.bounded?_saveFound (slots : ArgSlots) (found : UInt32) :
    bounded? (slots.saveFound found).offset =
      if slots.offset.present ∧ found ≤ Header.maxOffset then some found else none := by
  unfold bounded? saveFound
  by_cases hpresent : slots.offset.present
  · simp only [Cell.get?_set found hpresent, Option.filter_some, hpresent, true_and,
      decide_eq_true_eq]
  · have hmissing : (slots.offset.set found).get? = none := by
      rw [Cell.get?, Cell.present_set, if_neg hpresent]
    rw [hmissing, if_neg fun hboth => hpresent hboth.1]
    rfl

namespace Propagation

/-- The trace id that eight bytes of a message spell. -/
def traceIdOf (rawId : List UInt8) : UInt64 :=
  UInt64.ofNat (BigEndian.value rawId)

/-- Overwriting the bytes just put in front puts the frame in front. -/
theorem overwrite?_front (frame bytes : List UInt8) :
    Bytes.overwrite? (List.replicate frame.length 0 ++ bytes) 0 frame = some (frame ++ bytes) := by
  simp [Bytes.overwrite?]

/-- **A frame fits in front.**  Where a message has room for a frame, the frame goes
in front of its bytes. -/
theorem inject_of_hasRoom {msg : Message} {frame : List UInt8}
    (h : msg.HasRoom frame.length) :
    ∃ sent, inject msg frame = (true, sent) ∧ sent.bytes = frame ++ msg.bytes := by
  obtain ⟨hcan, hfit⟩ := h
  refine ⟨{ msg with
    bytes := frame ++ msg.bytes
    window := msg.reshapedWindow }, ?_, rfl⟩
  simp [inject, Message.grow?, hcan, Message.store?, Message.addressable, hfit,
    overwrite?_front]

/-- **A frame that does not fit leaves no trace.**  Without room the bytes stay as
they were, if room that was made can be taken away again. -/
theorem inject_of_not_hasRoom {msg : Message} {frame : List UInt8}
    (h : ¬ msg.HasRoom frame.length) :
    ∃ left, inject msg frame = (false, left) ∧ (msg.canShrink → left.bytes = msg.bytes) := by
  by_cases hcan : msg.canGrow
  · have hfit : ¬ frame.length ≤
        (Message.withinWindow (List.replicate frame.length 0 ++ msg.bytes)
          msg.reshapedWindow).length := by
      intro hfit
      exact h ⟨hcan, hfit⟩
    let grown : Message := { msg with
      bytes := List.replicate frame.length 0 ++ msg.bytes
      window := msg.reshapedWindow }
    refine ⟨(grown.shrink? frame.length).getD grown, ?_, ?_⟩
    · simp [inject, Message.grow?, hcan, Message.store?, Message.addressable, hfit, grown]
    · intro hshrink
      simp [grown, Message.shrink?, hshrink]
  · refine ⟨msg, ?_, fun _ => rfl⟩
    simp [inject, Message.grow?, hcan]

/-- What a propagation has read before it tries to put a frame in front: the offset
of the tracing header and its leading byte, the bytes of the trace id, and the
service's own id. -/
structure Reads (maps : Maps) (msg : Message) (offset : Nat) (lead : UInt8)
    (rawId : List UInt8) (service : UInt8) : Prop where
  header : header? maps msg.addressable = some (offset, lead)
  rawId : Bytes.slice? msg.addressable (valueOffset offset lead) Context.traceIdSize = some rawId
  service : maps.service.get? = some service

/-- The frame that goes in front once everything is read. -/
def nextFrame (maps : Maps) (rawId : List UInt8) (service : UInt8) : List UInt8 :=
  Context.frame rawId (nextPath maps service (traceIdOf rawId))

/-- The frame that is put in front has the size of every context frame. -/
theorem Reads.length_nextFrame {maps : Maps} {msg : Message} {offset : Nat} {lead : UInt8}
    {rawId : List UInt8} {service : UInt8} (reads : Reads maps msg offset lead rawId service) :
    (nextFrame maps rawId service).length = Context.frameSize :=
  Context.length_frame _ (Bytes.length_of_slice? reads.rawId)

/-- The next path is a new one, or extends the one that is cached. -/
theorem nextPath_cases (maps : Maps) (service : UInt8) (traceId : UInt64) :
    (maps.paths.get? traceId = none ∧ nextPath maps service traceId = .single service) ∨
      ∃ cached, maps.paths.get? traceId = some cached ∧
        nextPath maps service traceId = cached.extend service := by
  unfold nextPath
  cases maps.paths.get? traceId with
  | none => exact Or.inl ⟨rfl, rfl⟩
  | some cached => exact Or.inr ⟨cached, rfl, rfl⟩

/-- **What a propagation leads to.**  It stops short of the message, and may then
have noted a new name for the peer; or it has read everything, and the frame went in
front and used the cached path up, or it did not and the path stays cached. -/
inductive Propagated (maps : Maps) (peer : UInt32) (msg : Message) :
    Propagation × Message × Maps → Prop
  | unread : Propagated maps peer msg (.pass, msg, maps)
  | stopped {offset : Nat} {lead : UInt8}
      (header : header? maps msg.addressable = some (offset, lead)) :
      Propagated maps peer msg (.pass, msg, trackNewName maps peer lead)
  | aborted {offset : Nat} {lead : UInt8} {rawId : List UInt8} {service : UInt8}
      {left : Message}
      (reads : Reads maps msg offset lead rawId service)
      (hroom : ¬ msg.HasRoom (nextFrame maps rawId service).length)
      (hbytes : msg.canShrink → left.bytes = msg.bytes) :
      Propagated maps peer msg (.aborted (traceIdOf rawId), left, trackNewName maps peer lead)
  | injected {offset : Nat} {lead : UInt8} {rawId : List UInt8} {service : UInt8}
      {sent : Message}
      (reads : Reads maps msg offset lead rawId service)
      (hroom : msg.HasRoom (nextFrame maps rawId service).length)
      (hbytes : sent.bytes = nextFrame maps rawId service ++ msg.bytes) :
      Propagated maps peer msg
        (.injected (traceIdOf rawId) (nextPath maps service (traceIdOf rawId)).count, sent,
          { trackNewName maps peer lead with paths := maps.paths.erase (traceIdOf rawId) })

@[simp] theorem paths_trackNewName (maps : Maps) (peer : UInt32) (lead : UInt8) :
    (trackNewName maps peer lead).paths = maps.paths := by
  unfold trackNewName
  split <;> rfl

@[simp] theorem ring_trackNewName (maps : Maps) (peer : UInt32) (lead : UInt8) :
    (trackNewName maps peer lead).ring = maps.ring := by
  unfold trackNewName
  split <;> rfl

@[simp] theorem service_trackNewName (maps : Maps) (peer : UInt32) (lead : UInt8) :
    (trackNewName maps peer lead).service = maps.service := by
  unfold trackNewName
  split <;> rfl

/-- Noting a name does not change which path comes next. -/
@[simp] theorem nextPath_trackNewName (maps : Maps) (peer : UInt32) (lead : UInt8)
    (service : UInt8) (traceId : UInt64) :
    nextPath (trackNewName maps peer lead) service traceId = nextPath maps service traceId := by
  simp [nextPath]

end Propagation

open Propagation

/-- Once everything is read, the frame is put in front with the new name noted. -/
theorem Maps.propagate_of_reads {maps : Maps} (peer : UInt32) {msg : Message} {offset : Nat}
    {lead : UInt8} {rawId : List UInt8} {service : UInt8}
    (reads : Reads maps msg offset lead rawId service) :
    maps.propagate peer msg = send (trackNewName maps peer lead) msg rawId service := by
  simp only [Maps.propagate, reads.header, reads.rawId, service_trackNewName, reads.service]

/-- With everything read and room in front, the frame goes in front. -/
theorem Maps.propagate_of_hasRoom {maps : Maps} (peer : UInt32) {msg : Message} {offset : Nat}
    {lead : UInt8} {rawId : List UInt8} {service : UInt8}
    (reads : Reads maps msg offset lead rawId service)
    (hroom : msg.HasRoom (nextFrame maps rawId service).length) :
    ∃ sent, sent.bytes = nextFrame maps rawId service ++ msg.bytes ∧
      maps.propagate peer msg =
        (.injected (traceIdOf rawId) (nextPath maps service (traceIdOf rawId)).count, sent,
          { trackNewName maps peer lead with paths := maps.paths.erase (traceIdOf rawId) }) := by
  obtain ⟨sent, hinject, hbytes⟩ := inject_of_hasRoom hroom
  refine ⟨sent, hbytes, ?_⟩
  unfold nextFrame traceIdOf at hinject
  rw [Maps.propagate_of_reads peer reads]
  simp only [send, nextPath_trackNewName, hinject, paths_trackNewName]
  rfl

/-- With everything read and no room in front, the path stays cached. -/
theorem Maps.propagate_of_not_hasRoom {maps : Maps} (peer : UInt32) {msg : Message}
    {offset : Nat} {lead : UInt8} {rawId : List UInt8} {service : UInt8}
    (reads : Reads maps msg offset lead rawId service)
    (hroom : ¬ msg.HasRoom (nextFrame maps rawId service).length) :
    ∃ left, (msg.canShrink → left.bytes = msg.bytes) ∧
      maps.propagate peer msg =
        (.aborted (traceIdOf rawId), left, trackNewName maps peer lead) := by
  obtain ⟨left, hinject, hbytes⟩ := inject_of_not_hasRoom hroom
  refine ⟨left, hbytes, ?_⟩
  unfold nextFrame traceIdOf at hinject
  rw [Maps.propagate_of_reads peer reads]
  simp only [send, nextPath_trackNewName, hinject]
  rfl

/-- **Propagation is `Propagated`.**  The listed ends are the only ones. -/
theorem Maps.propagate_propagated (maps : Maps) (peer : UInt32) (msg : Message) :
    Propagated maps peer msg (maps.propagate peer msg) := by
  cases hheader : header? maps msg.addressable with
  | none =>
      simp only [Maps.propagate, hheader]
      exact .unread
  | some header =>
      obtain ⟨offset, lead⟩ := header
      cases hraw : Bytes.slice? msg.addressable (valueOffset offset lead)
          Context.traceIdSize with
      | none =>
          simp only [Maps.propagate, hheader, hraw]
          exact .stopped hheader
      | some rawId =>
          cases hservice : maps.service.get? with
          | none =>
              simp only [Maps.propagate, hheader, hraw, service_trackNewName, hservice]
              exact .stopped hheader
          | some service =>
              have reads : Reads maps msg offset lead rawId service :=
                ⟨hheader, hraw, hservice⟩
              by_cases hroom : msg.HasRoom (nextFrame maps rawId service).length
              · obtain ⟨sent, hbytes, hpropagate⟩ := Maps.propagate_of_hasRoom peer reads hroom
                rw [hpropagate]
                exact .injected reads hroom hbytes
              · obtain ⟨left, hbytes, hpropagate⟩ := Maps.propagate_of_not_hasRoom peer reads hroom
                rw [hpropagate]
                exact .aborted reads hroom hbytes

end MeshTrace
