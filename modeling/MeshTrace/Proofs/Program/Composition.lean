import MeshTrace.Proofs.Maps.Unbounded
import MeshTrace.Proofs.PathCache.Bound
import MeshTrace.Proofs.Program.FailOpen

/-!
# The programs do what their parts do

A service's programs hand a message on through slots and tail calls, and work on maps with
limited room.  Put together directly, and over maps with room for everything, their parts
are simpler to think about: look for the header in both passes, then put the frame in front
(`Maps.forward`); number a call; read a frame and cache its path.  Both ways of serving a
stretch of traffic have the same effects, message by message (`programs_serve_plainly`).

Two facts carry this.  With the jump table complete, a chain of programs is its composition
(`locateHeader_eq_forward`).  And forgetting the limits of the maps commutes with each step
(`handle_unbounded`), where the cache of paths needs no assumption: its ring keeps it from
filling up.
-/

namespace MeshTrace

/-- What a service is given to serve. -/
inductive Traffic where
  /-- A message goes out to `peer`, and the header locator sees it. -/
  | traced (peer : UInt32) (msg : Message)
  /-- A message goes out, and the call locator sees it. -/
  | call (msg : Message)
  /-- A message comes in, and parser and verdict see it. -/
  | inbound (msg : Inbound)

namespace Traffic

/-- All bytes of the message can be addressed, and no helper fails: a frame can be put in
front, and missing bytes of an inbound message can be asked for. -/
def Unhindered : Traffic → Prop
  | traced _ msg => msg.addressable = msg.bytes ∧ msg.HasRoom Context.frameSize
  | call msg => msg.addressable = msg.bytes
  | inbound msg => msg.addressable = msg.bytes ∨ msg.pullError = none

instance (traffic : Traffic) : Decidable traffic.Unhindered := by
  cases traffic <;> unfold Unhindered <;> infer_instance

/-- The run of a program that changes the maps. -/
def invocation : Traffic → Invocation
  | traced peer msg => .locator peer msg
  | call msg => .callLocator msg
  | inbound msg => .streamVerdict msg.pullAll.2.1

end Traffic

namespace Maps

/-- The maps of a service with room for everything, before the first message. -/
def plain (service : UInt8) : Maps :=
  { service := .holding service }

/-- Both passes over a message to `peer`, and the frame in front if they find the header. -/
def forward (maps : Maps) (peer : UInt32) (msg : Message) : Message × Maps :=
  match maps.search peer msg.addressable with
  | (.found offset, maps) => ((maps.saveFound offset).propagate peer msg).2
  | (_, maps) => (msg, maps)

/-- The parts of the programs on one message of which all bytes are in memory: the message's
bytes and the maps afterwards. -/
def handle (maps : Maps) : Traffic → List UInt8 × Maps
  | .traced peer msg =>
    let sent := maps.forward peer (.ofBytes msg.bytes)
    (sent.1.bytes, sent.2)
  | .call msg => (msg.bytes, (maps.correlate msg.bytes).2)
  | .inbound msg => (msg.bytes, (maps.receive msg.bytes).2)

/-- The bytes of each message and the maps after it. -/
def serve (maps : Maps) : List Traffic → List (List UInt8 × Maps)
  | [] => []
  | next :: rest => maps.handle next :: (maps.handle next).2.serve rest

end Maps

namespace Kernel

/-- The programs on one message: the message's bytes and the state afterwards. -/
def handle (kernel : Kernel) : Traffic → List UInt8 × Kernel
  | .traced peer msg =>
    let run := kernel.locateHeader peer msg
    (run.msg.bytes, run.kernel)
  | .call msg =>
    let run := kernel.correlateCall msg
    (run.msg.bytes, run.kernel)
  | .inbound msg =>
    let ended := kernel.receive msg
    (ended.2.2.1.bytes, ended.2.2.2.1)

/-- The bytes of each message and the maps after it. -/
def serve (kernel : Kernel) : List Traffic → List (List UInt8 × Maps)
  | [] => []
  | next :: rest =>
    ((kernel.handle next).1, (kernel.handle next).2.maps) :: (kernel.handle next).2.serve rest

/-- Nothing hinders a message, and each finds room for another cursor and another request
id. -/
def Serves (kernel : Kernel) : List Traffic → Prop
  | [] => True
  | next :: rest =>
    next.Unhindered ∧ kernel.maps.cursors.isFull = false ∧
      kernel.maps.correlations.isFull = false ∧ (kernel.handle next).2.Serves rest

instance decidableServes : (kernel : Kernel) → (traffic : List Traffic) →
    Decidable (kernel.Serves traffic)
  | _, [] => isTrue trivial
  | kernel, next :: rest =>
    have := decidableServes (kernel.handle next).2 rest
    inferInstanceAs (Decidable (_ ∧ _ ∧ _ ∧ _))

variable {kernel : Kernel} {peer : UInt32} {msg : Message}

/-- The second pass and what follows it. -/
theorem locateExtended_eq (kernel : Kernel) (htargets : ∀ target, target ∈ kernel.targets) :
    let run := kernel.locateExtended peer msg
    let ended := match kernel.maps.resume peer msg.addressable with
      | (.found offset, maps) => ((maps.saveFound offset).propagate peer msg).2
      | (_, maps) => (msg, maps)
    run.msg = ended.1 ∧ run.kernel = { kernel with maps := ended.2 } := by
  intro run ended
  cases hresume : kernel.maps.resume peer msg.addressable with
  | mk result maps =>
      cases result with
      | found offset =>
          simp only [run, ended, locateExtended_of_found kernel hresume, hresume, tailCall]
          rw [if_pos (htargets .propagator)]
          exact ⟨rfl, rfl⟩
      | pass | exhausted rest =>
          simp only [run, ended, locateExtended, hresume]
          exact ⟨rfl, rfl⟩

/-- **A chain of programs is its composition.**  With the jump table complete, the locators
and the propagator search for the header and put the frame in front. -/
theorem locateHeader_eq_forward (htargets : ∀ target, target ∈ kernel.targets) (peer : UInt32)
    (msg : Message) :
    let run := kernel.locateHeader peer msg
    let ended := kernel.maps.forward peer msg
    run.msg = ended.1 ∧ run.kernel = { kernel with maps := ended.2 } := by
  intro run ended
  cases hlocate : kernel.maps.locate peer msg.addressable with
  | mk result maps =>
      cases result with
      | pass =>
          simp only [run, ended, locateHeader, Maps.forward, Maps.search, hlocate]
          exact ⟨rfl, rfl⟩
      | found offset =>
          simp only [run, ended, locateHeader_of_found hlocate, Maps.forward, Maps.search, hlocate,
            tailCall]
          rw [if_pos (htargets .propagator)]
          exact ⟨rfl, rfl⟩
      | exhausted rest =>
          simp only [run, ended, locateHeader_of_exhausted hlocate (htargets _), Maps.forward,
            Maps.search, hlocate]
          exact locateExtended_eq { kernel with maps := maps.saveContinuation rest } htargets

end Kernel

/-- A message that lies in memory can be grown. -/
theorem Message.hasRoom_ofBytes (bytes : List UInt8) (count : Nat) :
    (ofBytes bytes).HasRoom count := by
  refine ⟨rfl, ?_⟩
  simp [ofBytes, withinWindow]

/-- Where there is room in front, the frame goes in front of the same bytes. -/
theorem Propagation.send_congr {maps : Maps} {msg other : Message} {rawId : List UInt8}
    {service : UInt8} (hraw : rawId.length = Context.traceIdSize)
    (hbytes : msg.bytes = other.bytes) (hroom : msg.HasRoom Context.frameSize)
    (hother : other.HasRoom Context.frameSize) :
    (send maps msg rawId service).2.1.bytes = (send maps other rawId service).2.1.bytes ∧
      (send maps msg rawId service).2.2 = (send maps other rawId service).2.2 := by
  let frame := Context.frame rawId (nextPath maps service (traceIdOf rawId))
  have hlength : frame.length = Context.frameSize := Context.length_frame _ hraw
  rw [← hlength] at hroom hother
  obtain ⟨sent, hinject, hsent⟩ := inject_of_hasRoom hroom
  obtain ⟨sent', hinject', hsent'⟩ := inject_of_hasRoom hother
  simp only [frame, traceIdOf] at hinject hinject'
  simp only [send, hinject, hinject']
  exact ⟨by rw [hsent, hsent', hbytes], trivial⟩

/-- Where there is room in front, only the bytes of a message and its window decide what
becomes of it. -/
theorem Maps.propagate_congr {maps : Maps} {peer : UInt32} {msg other : Message}
    (haddressable : msg.addressable = other.addressable) (hbytes : msg.bytes = other.bytes)
    (hroom : msg.HasRoom Context.frameSize) (hother : other.HasRoom Context.frameSize) :
    (maps.propagate peer msg).2.1.bytes = (maps.propagate peer other).2.1.bytes ∧
      (maps.propagate peer msg).2.2 = (maps.propagate peer other).2.2 := by
  rw [propagate, propagate, haddressable]
  cases Propagation.header? maps other.addressable with
  | none => exact ⟨hbytes, rfl⟩
  | some header =>
      obtain ⟨offset, lead⟩ := header
      dsimp only
      cases hraw : Bytes.slice? other.addressable (Propagation.valueOffset offset lead)
          Context.traceIdSize with
      | none => exact ⟨hbytes, rfl⟩
      | some rawId =>
          cases (Propagation.trackNewName maps peer lead).service.get? with
          | none => exact ⟨hbytes, rfl⟩
          | some service =>
              exact Propagation.send_congr (Bytes.length_of_slice? hraw) hbytes hroom hother

namespace Maps

variable {maps : Maps}

/-- A message that can be addressed and grown is as good as its bytes. -/
theorem forward_ofBytes (maps : Maps) (peer : UInt32) {msg : Message}
    (haddressable : msg.addressable = msg.bytes) (hroom : msg.HasRoom Context.frameSize) :
    (maps.forward peer msg).1.bytes = (maps.forward peer (.ofBytes msg.bytes)).1.bytes ∧
      (maps.forward peer msg).2 = (maps.forward peer (.ofBytes msg.bytes)).2 := by
  rw [forward, forward, Message.addressable_ofBytes, haddressable]
  generalize maps.search peer msg.bytes = ended
  obtain ⟨result, passed⟩ := ended
  cases result with
  | pass | exhausted => exact ⟨rfl, rfl⟩
  | found offset =>
      exact propagate_congr haddressable rfl hroom
        (Message.hasRoom_ofBytes msg.bytes Context.frameSize)

/-- A message with room for a cursor is forwarded alike without limits. -/
theorem unbounded_forward (h : maps.cursors.isFull = false) (peer : UInt32) (msg : Message) :
    maps.unbounded.forward peer msg =
      ((maps.forward peer msg).1, (maps.forward peer msg).2.unbounded) := by
  have hsearch := isFull_cursors_search h peer msg.addressable
  rw [forward, forward, unbounded_search]
  generalize maps.search peer msg.addressable = ended at hsearch ⊢
  obtain ⟨result, passed⟩ := ended
  cases result with
  | pass | exhausted => rfl
  | found offset =>
      have hroom : (passed.saveFound offset).cursors.isFull = false := hsearch
      exact congrArg Prod.snd (unbounded_propagate hroom peer msg)

end Maps

/-- A window that cuts nothing off shows everything. -/
theorem Message.withinWindow_eq_self {bytes : List UInt8} {window : Option Nat}
    (h : bytes.length ≤ (withinWindow bytes window).length) :
    withinWindow bytes window = bytes := by
  cases window with
  | none => rfl
  | some n =>
      have hfits : bytes.length ≤ n := by
        rw [withinWindow, List.length_take] at h
        omega
      exact List.take_of_length_le hfits

/-- Of an inbound message the verdict sees everything, unless asking for it failed. -/
theorem Inbound.addressable_pullAll {inbound : Inbound}
    (h : inbound.addressable = inbound.bytes ∨ inbound.pullError = none) :
    inbound.pullAll.2.1.addressable = inbound.bytes := by
  unfold pullAll
  by_cases hshort : inbound.addressable.length < inbound.bytes.length
  · rcases h with hall | herror
    · rw [hall] at hshort
      exact absurd hshort (Nat.lt_irrefl _)
    · simp only [if_pos hshort, pull, herror]
      exact List.take_of_length_le (Nat.le_max_right _ _)
  · rw [if_neg hshort]
    exact Message.withinWindow_eq_self (Nat.le_of_not_lt hshort)

namespace Kernel

variable {kernel : Kernel}

/-- To handle a message is to run the programs on it. -/
theorem handle_invoke (kernel : Kernel) (next : Traffic) :
    (kernel.handle next).2 = kernel.invoke next.invocation := by
  cases next <;> rfl

/-- The verdict does to the maps what receiving does. -/
theorem cacheReceived_maps (kernel : Kernel) (inbound : Inbound) :
    (kernel.cacheReceived inbound).2.1 =
      { kernel with maps := (kernel.maps.receive inbound.addressable).2 } := by
  rw [cacheReceived, Maps.receive]
  cases Context.read? inbound.addressable <;> rfl

/-- **One message.**  The programs leave the message and the maps as their parts do over
maps without limits. -/
theorem handle_unbounded (htargets : ∀ target, target ∈ kernel.targets) {next : Traffic}
    (hnext : next.Unhindered) (hcursors : kernel.maps.cursors.isFull = false)
    (hpaths : kernel.maps.paths.isFull = false)
    (hcorrelations : kernel.maps.correlations.isFull = false) :
    kernel.maps.unbounded.handle next =
        ((kernel.handle next).1, (kernel.handle next).2.maps.unbounded) ∧
      (kernel.handle next).2.targets = kernel.targets := by
  cases next with
  | traced peer msg =>
      obtain ⟨haddressable, hroom⟩ := hnext
      obtain ⟨hmsg, hkernel⟩ := locateHeader_eq_forward htargets peer msg
      obtain ⟨hbytes, hmaps⟩ := kernel.maps.forward_ofBytes peer haddressable hroom
      simp only [handle, Maps.handle, hmsg, hkernel, hbytes, hmaps,
        Maps.unbounded_forward hcursors, and_self]
  | call msg =>
      have haddressable : msg.addressable = msg.bytes := hnext
      simp only [handle, Maps.handle, correlateCall, haddressable,
        Maps.unbounded_correlate hcorrelations, and_self]
  | inbound msg =>
      have haddressable := Inbound.addressable_pullAll hnext
      simp only [handle, Maps.handle, receive, cacheReceived_maps, haddressable,
        msg.bytes_pullAll, Maps.unbounded_receive hpaths, and_self]

/-- **All messages, one after the other.**  The programs leave messages and maps as their parts do
over maps without limits. -/
theorem serve_unbounded {received : List UInt64} (htargets : ∀ target, target ∈ kernel.targets)
    (htracks : kernel.maps.Tracks received) {traffic : List Traffic} (h : kernel.Serves traffic) :
    kernel.maps.unbounded.serve traffic =
      (kernel.serve traffic).map fun ended => (ended.1, ended.2.unbounded) := by
  induction traffic generalizing kernel received with
  | nil => rfl
  | cons next rest ih =>
      obtain ⟨hnext, hcursors, hcorrelations, hrest⟩ := h
      obtain ⟨hhandle, hkept⟩ := handle_unbounded htargets hnext hcursors htracks.isFull_eq_false
        hcorrelations
      have htracks' := htracks.invoke next.invocation
      rw [← handle_invoke] at htracks'
      have hserve := ih (fun target => hkept ▸ htargets target) htracks' hrest
      rw [Maps.serve, serve, List.map_cons, hhandle, hserve]

end Kernel

/-- **The programs serve as their parts do.**  A service is loaded with all its programs.
Whatever messages it then serves, the bytes of each message and the maps after it are those
that the plain parts give over maps without limits.  A cursor table or a table of request
ids that is full would make a difference, the cache of paths never fills up. -/
theorem programs_serve_plainly (service : UInt8) {traffic : List Traffic}
    (h : (Kernel.loaded service JumpTarget.all).Serves traffic) :
    ((Kernel.loaded service JumpTarget.all).serve traffic).map
        (fun ended => (ended.1, ended.2.unbounded)) =
      (Maps.plain service).serve traffic := by
  have htargets : ∀ target, target ∈ (Kernel.loaded service JumpTarget.all).targets := by
    intro target
    show target ∈ JumpTarget.all
    cases target <;> decide
  have hfresh : (Kernel.loaded service JumpTarget.all).maps.Tracks [] := .fresh rfl rfl
  have hplain : (Kernel.loaded service JumpTarget.all).maps.unbounded = Maps.plain service := rfl
  rw [← hplain]
  exact (Kernel.serve_unbounded htargets hfresh h).symm

/-- A path comes in, goes out with the next request of its trace, whose header only the
second pass reaches, and a call is numbered in between. -/
theorem programs_serve_plainly_oneTrace :
    let rawId : List UInt8 := [0, 0, 0, 0, 0, 0, 0, 9]
    let incoming := Context.frame rawId (.single 7)
    let call : List UInt8 := [0x80, 0x01, 0, 1, 0, 0, 0, 0, 0, 0, 0, 1, 0x0A, 0, 1,
      0, 0, 0, 0, 0, 0, 0, 5]
    let request := Frame.encode Frame.headersType
      (Field.encodeAll (List.replicate 6 (.indexed 0x86) ++ [.tracing rawId]))
    let traffic : List Traffic :=
      [.inbound { bytes := incoming, window := some 20 }, .call (.ofBytes call),
        .traced 10 (.ofBytes request)]
    (Kernel.loaded 4 JumpTarget.all).Serves traffic ∧
      ((Kernel.loaded 4 JumpTarget.all).serve traffic).map
          (fun ended => (ended.1, ended.2.unbounded)) =
        (Maps.plain 4).serve traffic ∧
      ((Maps.plain 4).serve traffic).map (·.1) =
        [incoming, call, Context.frame rawId ((Path.single 7).extend 4) ++ request] := by
  intro rawId incoming call request traffic
  have hserves : (Kernel.loaded 4 JumpTarget.all).Serves traffic := by decide +kernel
  refine ⟨hserves, programs_serve_plainly 4 hserves, ?_⟩
  decide +kernel

end MeshTrace
