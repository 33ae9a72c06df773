import MeshTrace.Program.Inbound
import MeshTrace.Proofs.Program.Outbound

/-!
# Every program fails open

No program withholds or damages data.  An outbound message goes out as it is, and
then no cached path was used up; or it goes out with one context frame in front of
its untouched bytes, and then the frame carries eight bytes of the message as its id
and the path that was due to that id.  This is so for any maps, slots and windows,
and whatever array, jump-table entry or room is missing; only taking away bytes that
were just put in front must not fail (`programs_fail_open`).
-/

namespace MeshTrace

open Propagation

/-- The message goes out as `sent`: a context frame with the next path of some eight
bytes of the message, and behind it the message.  There was room for the frame. -/
def Kernel.Carries (kernel : Kernel) (msg : Message) (sent : List UInt8) : Prop :=
  ∃ offset rawId service path,
    Bytes.slice? msg.bytes offset Context.traceIdSize = some rawId ∧
    kernel.maps.service.get? = some service ∧
    ((kernel.maps.paths.get? (traceIdOf rawId) = none ∧ path = .single service) ∨
      ∃ cached, kernel.maps.paths.get? (traceIdOf rawId) = some cached ∧
        path = cached.extend service) ∧
    msg.HasRoom Context.frameSize ∧
    sent = Context.frame rawId path ++ msg.bytes

/-- A run lets its message pass: as it is, or with a context frame in front.  Where
the bytes are as they were, no record was taken from the path cache. -/
structure Kernel.FailsOpen (kernel : Kernel) (msg : Message) (run : MessageRun) : Prop where
  verdict : run.verdict = .pass
  bytes : run.msg.bytes = msg.bytes ∨ kernel.Carries msg run.msg.bytes
  paths : run.msg.bytes = msg.bytes → run.kernel.maps.paths = kernel.maps.paths

namespace Kernel

variable {kernel : Kernel} {peer : UInt32} {msg : Message}

/-- A frame in front makes a message longer. -/
theorem Carries.ne {sent : List UInt8} (h : kernel.Carries msg sent) : sent ≠ msg.bytes := by
  obtain ⟨offset, rawId, service, path, hraw, _, _, _, rfl⟩ := h
  intro heq
  have hframe := Context.length_frame path (Bytes.length_of_slice? hraw)
  have hlength := congrArg List.length heq
  rw [List.length_append, hframe] at hlength
  unfold Context.frameSize Frame.headerSize at hlength
  omega

/-- The propagator lets every message pass, and leaves it as it was unless it injects a frame. -/
theorem propagatePath_failsOpen (kernel : Kernel) (peer : UInt32) (hshrink : msg.canShrink) :
    kernel.FailsOpen msg (kernel.propagatePath peer msg) := by
  obtain ⟨outcome, sent, maps, records, hends, hrun⟩ := kernel.propagatePath_propagated peer msg
  rw [hrun]
  cases hends with
  | unread => exact ⟨rfl, Or.inl rfl, fun _ => rfl⟩
  | stopped header => exact ⟨rfl, Or.inl rfl, fun _ => by simp⟩
  | aborted reads hroom hbytes => exact ⟨rfl, Or.inl (hbytes hshrink), fun _ => by simp⟩
  | @injected offset lead rawId service _ reads hroom hbytes =>
      have hcarries : kernel.Carries msg sent.bytes := by
        rw [reads.length_nextFrame] at hroom
        exact ⟨_, rawId, service, nextPath kernel.maps service (traceIdOf rawId),
          Message.slice?_of_addressable reads.rawId, reads.service, nextPath_cases _ _ _,
          hroom, hbytes⟩
      exact ⟨rfl, Or.inr hcarries, fun hsame => absurd hsame hcarries.ne⟩

/-- The propagator finds the paths and the service's id as the locator found them. -/
theorem Located.failsOpen {run : MessageRun} (h : Located kernel peer msg run)
    (hshrink : msg.canShrink) : kernel.FailsOpen msg run := by
  cases h with
  | passed args cursors records => exact ⟨rfl, Or.inl rfl, fun _ => rfl⟩
  | propagated args cursors =>
      have hopen := propagatePath_failsOpen (kernel.scanned args cursors) peer hshrink
      exact ⟨hopen.verdict, hopen.bytes, hopen.paths⟩

/-- The call locator lets every message pass as it is. -/
theorem correlateCall_failsOpen (kernel : Kernel) (msg : Message) :
    kernel.FailsOpen msg (kernel.correlateCall msg) := by
  have hpaths : (kernel.maps.correlate msg.addressable).2.paths = kernel.maps.paths := by
    unfold Maps.correlate
    split
    · rfl
    · split <;> rfl
  exact ⟨rfl, Or.inl rfl, fun _ => hpaths⟩

/-- The verdict lets every message pass. -/
theorem verdict_cacheReceived (kernel : Kernel) (inbound : Inbound) :
    (kernel.cacheReceived inbound).1 = .pass := by
  unfold cacheReceived
  split <;> rfl

end Kernel

/-- Asking for more bytes changes only how many are addressable. -/
theorem Inbound.bytes_pullAll (inbound : Inbound) :
    inbound.pullAll.2.1.bytes = inbound.bytes := by
  unfold pullAll pull
  cases inbound.pullError with
  | none => dsimp only; split <;> rfl
  | some error => dsimp only; split <;> rfl

/-- **Every program fails open.**  Each of the programs for outbound messages lets
the message pass, unchanged and with no path used up, or with one context frame in
front; and an inbound message passes as it came. -/
theorem programs_fail_open (kernel : Kernel) (peer : UInt32) (msg : Message)
    (inbound : Inbound) (hshrink : msg.canShrink) :
    kernel.FailsOpen msg (kernel.locateHeader peer msg) ∧
      kernel.FailsOpen msg (kernel.locateExtended peer msg) ∧
      kernel.FailsOpen msg (kernel.propagatePath peer msg) ∧
      kernel.FailsOpen msg (kernel.correlateCall msg) ∧
      (kernel.cacheReceived inbound).1 = .pass ∧
      (kernel.receive inbound).2.1 = .pass ∧
      (kernel.receive inbound).2.2.1.bytes = inbound.bytes :=
  ⟨(Kernel.locateHeader_located kernel peer msg).failsOpen hshrink,
    (Kernel.locateExtended_located kernel peer msg).failsOpen hshrink,
    Kernel.propagatePath_failsOpen kernel peer hshrink,
    Kernel.correlateCall_failsOpen kernel msg,
    Kernel.verdict_cacheReceived kernel inbound,
    Kernel.verdict_cacheReceived kernel inbound.pullAll.2.1,
    inbound.bytes_pullAll⟩

/-- A message that can be grown, but not written to afterwards, passes. -/
theorem programs_fail_open_narrow :
    let kernel : Kernel := { maps := { Maps.bounded with service := .holding 4 } }
    let msg : Message :=
      { bytes := Frame.encode Frame.headersType
          (Field.encodeAll [.tracing [1, 2, 3, 4, 5, 6, 7, 8, 9]])
        reshapedWindow := some 60 }
    msg.canShrink ∧ kernel.FailsOpen msg (kernel.locateHeader 7 msg) := by
  intro kernel msg
  have hshrink : msg.canShrink := rfl
  exact ⟨hshrink, (programs_fail_open kernel 7 msg { bytes := [] } hshrink).1⟩

end MeshTrace
