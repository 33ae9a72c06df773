import MeshTrace.Command.Run
import MeshTrace.Proofs.Procedure

/-!
# What collecting leaves alone

Drains and the reading of the path cache replace maps of the object, take keys out of them
and write to the log.  A relation that looks at none of this (`System.Overlooks`) is
respected by all of them.
-/

namespace MeshTrace

/-- The event does not report that a value was written. -/
def Event.WritesNothing : Event → Prop
  | done (.valueSet ..) => False
  | _ => True

/-- The relation overlooks what the object is, and events that report no write. -/
class System.Overlooks (R : System → System → Prop) : Prop extends IsPreorder System R where
  object (system : System) (object : Object) : R system { system with object }
  event (system : System) {event : Event} (h : event.WritesNothing) :
    R system { system with events := system.events.push event }

instance : System.Overlooks System.SameFiles where
  object _ _ := rfl
  event _ _ _ := rfl

open Procedure

variable {R : System → System → Prop} [System.Overlooks R]

namespace Procedure.Respects

/-- Replacing a map is overlooked. -/
theorem replace_map (name : String) (map : ObjectMap) : Respects R (putMap name map) :=
  fun system => System.Overlooks.object system (system.object.withMap name map)

theorem note {event : Event} (h : event.WritesNothing) : Respects R (observe event) :=
  fun system => System.Overlooks.event system h

end Procedure.Respects

namespace Installation

/-- Removing drained keys is overlooked, whichever of them cannot be removed. -/
theorem respects_removeDrained (table : HashTable UInt64) (keys : List UInt64) :
    Respects R (removeDrained table keys) := by
  induction keys generalizing table with
  | nil => exact .pure table
  | cons key rest ih =>
      unfold removeDrained
      split
      · exact .bind (.note trivial) fun _ => ih _
      · exact .bind (.note trivial) fun _ => ih _

/-- A drain is overlooked, at whatever step it fails. -/
theorem respects_drain : Respects R drain :=
  .bind (.map _) fun _ => .bind (.check _ _) fun _ => .bind (.replace_map _ _) fun _ =>
    .bind (.check _ _) fun _ => .bind (respects_removeDrained _ _) fun _ =>
    .bind (.replace_map _ _) fun _ => .pure _

theorem respects_pathCache : Respects R pathCache :=
  .bind (.map _) fun _ => .bind (.check _ _) fun _ => .bind (.check _ _) fun _ =>
    .bind (.check _ _) fun _ => .bind (.map _) fun _ => .bind (.check _ _) fun _ =>
    .bind (.replace_map _ _) fun _ => .bind (.check _ _) fun _ => .pure _

end Installation

namespace Command

theorem respects_infos (lines : List String) : Respects R (infos lines) :=
  .forM fun _ => .note trivial

theorem respects_drainOnce (collector : Collector) : Respects R (drainOnce collector) := by
  refine .bind Installation.respects_drain fun batch => ?_
  dsimp only
  split
  · exact .bind (.note trivial) fun _ => .pure _
  · exact .bind (.note trivial) fun _ => .pure _

/-- However many drains there are, collecting is overlooked. -/
theorem respects_collect (collector : Collector) (n : Nat) :
    Respects R (collect collector n) := by
  induction n generalizing collector with
  | zero => exact .pure collector
  | succ n ih => exact .bind (respects_drainOnce collector) fun collector => ih collector

theorem respects_readPathCache (protocol : Protocol) : Respects R (readPathCache protocol) := by
  cases protocol with
  | thrift => exact .pure none
  | grpc =>
      refine .tryCatch ?_ fun _ => .bind (.note trivial) fun _ => .pure none
      exact .bind Installation.respects_pathCache fun _ => .pure _

end Command

end MeshTrace
