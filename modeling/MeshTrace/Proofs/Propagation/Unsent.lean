import MeshTrace.Proofs.Program.Seeding

/-!
# Propagations that send nothing

A propagation that puts no frame in front of its message passes or is aborted.

One that passes leaves the message and every map but the cursors as they were.  Where the field
that it takes spells its name out, it moves the peer's cursor to the first dynamic index, and it
does so before it reads the value and the service's id.  So the cursors are as they were exactly
if there was no such field, or the peer's cursor was there already, or there was no room for one
(`passing_changes_nothing_iff`).  A value that is cut off comes too late
(`passing_moves_cursor`).

One that is aborted keeps every cached path.  The message goes out as it was unless room was made
in front of it that could not be taken away again; then it goes out behind as many zeros
(`aborting_restores_message_iff`, `aborting_leaves_zeros`).
-/

namespace MeshTrace

open Header Propagation

/-! ### Passing -/

namespace Maps

/-- A propagation moves the peer's cursor to the first dynamic index: the field that it takes
spells its name out, and the cursor can be stored and is elsewhere. -/
structure Reseeds (maps : Maps) (peer : UInt32) (msg : Message) : Prop where
  named : (maps.taken? msg).any namesItself
  canSeed : maps.CanSeed peer
  elsewhere : maps.cursor? peer ≠ some dynamicTableBase

variable {maps after : Maps} {peer : UInt32} {msg left : Message}

/-- Noting a new name has no effect where there is no room for the cursor, or where it is
already. -/
theorem trackNewName_eq_self {lead : UInt8}
    (h : namesItself lead → maps.CanSeed peer → maps.cursor? peer = some dynamicTableBase) :
    trackNewName maps peer lead = maps := by
  unfold trackNewName
  split
  · rename_i hnames
    have hcursors : maps.cursors.insert peer dynamicTableBase = maps.cursors := by
      by_cases hroom : maps.CanSeed peer
      · exact Table.insert_of_get?_eq (h hnames hroom)
      · obtain ⟨hnew, hfull⟩ := not_or.mp hroom
        exact Table.insert_of_isFull _ (Bool.eq_false_iff.mpr hnew) (by simpa using hfull)
    rw [hcursors]
  · rfl

/-- A propagation that passes changes the cursors at most. -/
theorem eq_of_propagate_pass (h : maps.propagate peer msg = (.pass, left, after)) :
    left = msg ∧ after = { maps with cursors := after.cursors } ∧
      (after = maps ∨ ∃ offset lead, header? maps msg.addressable = some (offset, lead) ∧
        after = trackNewName maps peer lead) := by
  have hends := maps.propagate_propagated peer msg
  rw [h] at hends
  cases hends with
  | unread => exact ⟨rfl, rfl, Or.inl rfl⟩
  | @stopped offset lead header =>
      refine ⟨rfl, ?_, Or.inr ⟨offset, lead, header, rfl⟩⟩
      unfold trackNewName
      split <;> rfl

end Maps

/-- **What a propagation that passes leaves behind.**  The message, the argument slots, the paths
and every other map are as they were, and so are the cursors of the other peers.  Nothing at all
is changed exactly if the peer's cursor is not moved to the first dynamic index for a name that
the field spells out; else that is where it is. -/
theorem passing_changes_nothing_iff {maps after : Maps} {peer : UInt32} {msg left : Message}
    (h : maps.propagate peer msg = (.pass, left, after)) :
    left = msg ∧ after = { maps with cursors := after.cursors } ∧
      (∀ other, other ≠ peer → after.cursor? other = maps.cursor? other) ∧
      (after = maps ↔ ¬ maps.Reseeds peer msg) ∧
      (maps.Reseeds peer msg → after.cursor? peer = some dynamicTableBase) := by
  have hmoved := maps.moved_propagate peer msg
  rw [h] at hmoved
  have hseeded : maps.Reseeds peer msg → after.cursor? peer = some dynamicTableBase :=
    fun hreseeds => hmoved.seeded hreseeds.named hreseeds.canSeed
  obtain ⟨hmsg, hmaps, hends⟩ := Maps.eq_of_propagate_pass h
  refine ⟨hmsg, hmaps, hmoved.others, ⟨?_, ?_⟩, hseeded⟩
  · rintro rfl hreseeds
    exact hreseeds.elsewhere (hseeded hreseeds)
  · intro hkept
    rcases hends with hsame | ⟨offset, lead, hheader, htracked⟩
    · exact hsame
    · rw [htracked]
      refine Maps.trackNewName_eq_self fun hnames hroom => ?_
      by_contra helsewhere
      have htaken : maps.taken? msg = some lead := by
        rw [Maps.taken?, hheader]
        rfl
      exact hkept ⟨by rwa [htaken], hroom, helsewhere⟩

/-- A frame with the tracing header, whose value of nine bytes is cut off behind the sixth. -/
def cutTracing : Message :=
  .ofBytes ((Frame.encode Frame.headersType (Field.tracing [1, 2, 3, 4, 5, 6, 7, 8, 9]).encode).take
    27)

/-- Maps in which a header was found in the first field, and the service's id is 4. -/
def foundFirst (cursors : Table UInt32 UInt8) : Maps where
  args := { offset := .holding 9 }
  cursors := cursors
  service := .holding 4

/-- A header with a cut value leaves all as it was for a peer whose cursor is at the first
dynamic index. -/
theorem passing_changes_nothing_iff_seeded :
    let maps := foundFirst (Table.empty.put 5 62)
    let ended := maps.propagate 5 cutTracing
    ended.1 = .pass ∧ ended.2.1 = cutTracing ∧ ended.2.2 = maps := by
  intro maps ended
  have hpass : ended.1 = .pass := by decide +kernel
  have h : ended = (.pass, ended.2.1, ended.2.2) := by rw [← hpass]
  obtain ⟨hmsg, -, -, hsame, -⟩ := passing_changes_nothing_iff h
  have hcursor : maps.cursor? 5 = some dynamicTableBase := by decide +kernel
  exact ⟨hpass, hmsg, hsame.mpr fun hreseeds => hreseeds.elsewhere hcursor⟩

/-- **Passing can move a cursor.**  The value of the header is cut off, so nothing is sent; the
peer, which had no cursor, has one afterwards. -/
theorem passing_moves_cursor :
    let maps := foundFirst .empty
    let ended := maps.propagate 5 cutTracing
    ended.1 = .pass ∧ maps.cursor? 5 = none ∧ ended.2.2.cursor? 5 = some 62 := by
  decide +kernel

/-! ### Aborting -/

namespace Propagation

variable {msg left : Message} {frame : List UInt8}

/-- Without a frame in front the bytes are as they were, or room that was made is still there. -/
theorem bytes_of_inject (h : inject msg frame = (false, left)) :
    left.bytes = if msg.canGrow ∧ ¬ msg.canShrink then List.replicate frame.length 0 ++ msg.bytes
      else msg.bytes := by
  unfold inject Message.grow? at h
  by_cases hgrow : msg.canGrow
  · rw [if_pos hgrow] at h
    dsimp only at h
    split at h
    · cases h
    · cases h
      by_cases hshrink : msg.canShrink
      · simp [Message.shrink?, hshrink]
      · simp [Message.shrink?, hgrow, hshrink]
  · rw [if_neg hgrow] at h
    cases h
    rw [if_neg fun hcan => hgrow hcan.1]

/-- A propagation is aborted where its frame could not be put in front. -/
theorem inject_of_propagate_aborted {maps after : Maps} {peer : UInt32} {traceId : UInt64}
    (h : maps.propagate peer msg = (.aborted traceId, left, after)) :
    after.paths = maps.paths ∧
      ∃ frame, frame.length = Context.frameSize ∧ inject msg frame = (false, left) := by
  have hends := maps.propagate_propagated peer msg
  rw [h] at hends
  cases hends with
  | @aborted offset lead rawId service _ reads hroom hbytes =>
      refine ⟨paths_trackNewName _ _ _, nextFrame maps rawId service, reads.length_nextFrame, ?_⟩
      have hsend := Maps.propagate_of_reads peer reads
      rw [h, send, nextPath_trackNewName] at hsend
      generalize hinject : inject msg _ = tried at hsend
      obtain ⟨inFront, last⟩ := tried
      cases inFront with
      | true => cases hsend
      | false =>
          obtain rfl : left = last := (Prod.mk.inj (Prod.mk.inj hsend).2).1
          exact hinject

end Propagation

/-- **What an aborted propagation leaves behind.**  Every cached path stays.  The message goes
out as it was exactly if making room in front of it failed, or the room could be taken away
again; else it goes out behind as many zeros as a context frame is long. -/
theorem aborting_restores_message_iff {maps after : Maps} {peer : UInt32} {msg left : Message}
    {traceId : UInt64} (h : maps.propagate peer msg = (.aborted traceId, left, after)) :
    after.paths = maps.paths ∧
      (left.bytes = msg.bytes ↔ (msg.canGrow → msg.canShrink)) ∧
      (left.bytes ≠ msg.bytes →
        left.bytes = List.replicate Context.frameSize 0 ++ msg.bytes) := by
  obtain ⟨hpaths, frame, hframe, hinject⟩ := inject_of_propagate_aborted h
  have hbytes := bytes_of_inject hinject
  rw [hframe] at hbytes
  have hlonger : List.replicate Context.frameSize 0 ++ msg.bytes ≠ msg.bytes := by
    intro heq
    have hlength := congrArg List.length heq
    rw [List.length_append, List.length_replicate] at hlength
    unfold Context.frameSize Frame.headerSize at hlength
    omega
  refine ⟨hpaths, ?_, ?_⟩
  · by_cases hstays : msg.canGrow ∧ ¬ msg.canShrink
    · rw [if_pos hstays] at hbytes
      rw [hbytes]
      exact ⟨fun heq => absurd heq hlonger, fun hundone => absurd (hundone hstays.1) hstays.2⟩
    · rw [if_neg hstays] at hbytes
      exact ⟨fun _ hgrow => by_contra fun hshrink => hstays ⟨hgrow, hshrink⟩, fun _ => hbytes⟩
  · intro hchanged
    rw [hbytes]
    exact if_pos (by_contra fun hstays => hchanged (by rw [hbytes, if_neg hstays]))

/-- A frame with the tracing header, to which a program can add bytes, but of which it can then
address 60 only. -/
def narrowed (canShrink : Bool) : Message :=
  { bytes := Frame.encode Frame.headersType (Field.tracing [1, 2, 3, 4, 5, 6, 7, 8, 9]).encode
    reshapedWindow := some 60
    canShrink := canShrink }

/-- Where the room can be taken away again, the message goes out as it was, and the cached path
of its trace stays. -/
theorem aborting_restores_message_iff_narrowed :
    let maps := { foundFirst .empty with paths := Table.empty.put 0x0102030405060708 (.single 2) }
    let ended := maps.propagate 5 (narrowed true)
    ended.1 = .aborted 0x0102030405060708 ∧ ended.2.1.bytes = (narrowed true).bytes ∧
      ended.2.2.paths.get? 0x0102030405060708 = some (.single 2) := by
  intro maps ended
  have haborted : ended.1 = .aborted 0x0102030405060708 := by decide +kernel
  have h : ended = (.aborted 0x0102030405060708, ended.2.1, ended.2.2) := by rw [← haborted]
  obtain ⟨hpaths, hrestored, -⟩ := aborting_restores_message_iff h
  have hbytes : ended.2.1.bytes = (narrowed true).bytes := hrestored.mpr fun _ => rfl
  have hkept : maps.paths.get? 0x0102030405060708 = some (.single 2) := by decide +kernel
  exact ⟨haborted, hbytes, (congrArg (Table.get? · 0x0102030405060708) hpaths).trans hkept⟩

/-- **An aborted propagation can leave zeros in front.**  The frame does not fit into what is
addressable, and the room made for it cannot be taken away again: the message goes out behind
118 zeros. -/
theorem aborting_leaves_zeros :
    let ended := (foundFirst .empty).propagate 5 (narrowed false)
    ended.1 = .aborted 0x0102030405060708 ∧
      ended.2.1.bytes = List.replicate 118 0 ++ (narrowed false).bytes ∧
      ended.2.1.bytes ≠ (narrowed false).bytes := by
  decide +kernel

end MeshTrace
