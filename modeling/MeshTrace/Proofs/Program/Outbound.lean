import MeshTrace.Program.Outbound
import MeshTrace.Proofs.Maps.Cursors
import MeshTrace.Proofs.Propagation

/-!
# How the programs for outbound messages end

A pass over the headers writes to the cursors and the argument slots and to nothing
else.  So a locator, whatever it finds and whatever is missing, ends in one of two
ways (`Located`): the message goes out as it is, or the propagator runs on the same
message with maps that differ in cursors and argument slots alone.  Both locators
end so (`locateExtended_located`, `locateHeader_located`).
-/

namespace MeshTrace

open Propagation

namespace Kernel

/-- The state with other argument slots and cursors. -/
def scanned (kernel : Kernel) (args : ArgSlots) (cursors : Table UInt32 UInt8) : Kernel :=
  { kernel with maps := kernel.maps.scanned args cursors }

/-- **How a locator ends.**  The message goes out as it is, and no record says anything
else; or the propagator runs on it. -/
inductive Located (kernel : Kernel) (peer : UInt32) (msg : Message) : MessageRun → Prop
  | passed (args : ArgSlots) (cursors : Table UInt32 UInt8) (records : List KernelRecord)
      (hrecords : ∀ traceId hops, .propagated traceId hops ∉ records) :
      Located kernel peer msg
        { verdict := .pass, msg, kernel := kernel.scanned args cursors, records }
  | propagated (args : ArgSlots) (cursors : Table UInt32 UInt8) :
      Located kernel peer msg ((kernel.scanned args cursors).propagatePath peer msg)

variable {kernel : Kernel} {peer : UInt32} {msg : Message}

/-- The propagator lets the message pass, with what the propagation made of it. -/
theorem propagatePath_propagated (kernel : Kernel) (peer : UInt32) (msg : Message) :
    ∃ outcome sent maps records, Propagated kernel.maps peer msg (outcome, sent, maps) ∧
      kernel.propagatePath peer msg =
        { verdict := .pass, msg := sent, kernel := { kernel with maps }, records } := by
  have hends := kernel.maps.propagate_propagated peer msg
  unfold propagatePath
  cases hresult : kernel.maps.propagate peer msg with
  | mk outcome rest =>
      rw [hresult] at hends
      exact ⟨outcome, rest.1, rest.2, _, hends, rfl⟩

/-- What a locator did to slots and cursors before it ended does not change how it
ended. -/
theorem Located.of_scanned {args : ArgSlots} {cursors : Table UInt32 UInt8} {run : MessageRun}
    (h : Located (kernel.scanned args cursors) peer msg run) : Located kernel peer msg run := by
  cases h with
  | passed args cursors records hrecords => exact .passed args cursors records hrecords
  | propagated args cursors => exact .propagated args cursors

/-- A tail call ends like the program it continues with, or lets the message pass. -/
theorem tailCall_located {target : JumpTarget} {program : Kernel → MessageRun}
    (h : Located kernel peer msg (program kernel)) :
    Located kernel peer msg (tailCall kernel msg target program) := by
  unfold tailCall
  split
  · exact h
  · exact .passed kernel.maps.args kernel.maps.cursors _ (by simp)

/-- A pass ends like a locator if what follows an exhausted pass does. -/
theorem afterScan_located {exhausted : Kernel → Continuation → MessageRun}
    (hexhausted : ∀ args cursors rest, Located kernel peer msg
      (exhausted (kernel.scanned args cursors) rest))
    (run : Option UInt8 → Scan × Option UInt8) :
    Located kernel peer msg
      (afterScan kernel peer msg exhausted (kernel.maps.withCursor peer run)) := by
  obtain ⟨cursors, hmaps⟩ := kernel.maps.withCursor_snd peer run
  cases hpass : kernel.maps.withCursor peer run with
  | mk result maps =>
      rw [hpass] at hmaps
      subst hmaps
      cases result with
      | pass => exact .passed kernel.maps.args cursors [] (by simp)
      | found offset =>
          let args := kernel.maps.args.saveFound offset
          have hslots : Located (kernel.scanned args cursors) peer msg
              (tailCall (kernel.scanned args cursors) msg .propagator
                fun kernel => kernel.propagatePath peer msg) :=
            tailCall_located (.propagated args cursors)
          exact hslots.of_scanned
      | exhausted rest => exact hexhausted kernel.maps.args cursors rest

/-- A pass that finds the header hands its offset to the propagator. -/
theorem locateHeader_of_found {maps : Maps} {offset : UInt32}
    (h : kernel.maps.locate peer msg.addressable = (.found offset, maps)) :
    kernel.locateHeader peer msg =
      tailCall { kernel with maps := maps.saveFound offset } msg .propagator
        fun kernel => kernel.propagatePath peer msg := by
  unfold locateHeader
  rw [h]
  rfl

/-- A second pass that finds the header goes on to the propagator. -/
theorem locateExtended_of_found (kernel : Kernel) {maps : Maps} {offset : UInt32}
    (h : kernel.maps.resume peer msg.addressable = (.found offset, maps)) :
    kernel.locateExtended peer msg =
      tailCall { kernel with maps := maps.saveFound offset } msg .propagator
        fun kernel => kernel.propagatePath peer msg := by
  unfold locateExtended
  rw [h]
  rfl

/-- A first pass that runs out hands its continuation to the second one. -/
theorem locateHeader_of_exhausted {maps : Maps} {rest : Continuation}
    (h : kernel.maps.locate peer msg.addressable = (.exhausted rest, maps))
    (htarget : .extendedLocator ∈ kernel.targets) :
    kernel.locateHeader peer msg =
      locateExtended { kernel with maps := maps.saveContinuation rest } peer msg := by
  unfold locateHeader
  rw [h]
  exact if_pos htarget

/-- The second pass ends in one of the two ways. -/
theorem locateExtended_located (kernel : Kernel) (peer : UInt32) (msg : Message) :
    Located kernel peer msg (kernel.locateExtended peer msg) :=
  afterScan_located (fun args cursors _ => .passed args cursors [] (by simp)) _

/-- The first pass ends in one of the two ways, with the second pass behind it. -/
theorem locateHeader_located (kernel : Kernel) (peer : UInt32) (msg : Message) :
    Located kernel peer msg (kernel.locateHeader peer msg) := by
  apply afterScan_located
  intro args cursors rest
  have hslots : Located (kernel.scanned (args.save rest) cursors) peer msg
      (tailCall (kernel.scanned (args.save rest) cursors) msg .extendedLocator
        fun kernel => kernel.locateExtended peer msg) :=
    tailCall_located (locateExtended_located _ peer msg)
  exact hslots.of_scanned

/-- Numbering a call puts nothing in front. -/
theorem not_mem_records_correlateCall (traceId : UInt64) (hops : UInt8) :
    .propagated traceId hops ∉ (kernel.correlateCall msg).records := by
  unfold correlateCall
  cases kernel.maps.correlate msg.addressable with
  | mk outcome maps => cases outcome <;> simp

end Kernel

end MeshTrace
