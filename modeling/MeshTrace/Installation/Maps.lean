import MeshTrace.Installation.Load
import MeshTrace.Report.Statistics

/-!
# Writing and reading a pod's maps

Draining takes the recorded correlations out of their map.  All of them are read before
the first is removed, so a map that cannot be read is left as it is.
-/

namespace MeshTrace.Installation

open Procedure

/-- Tells the programs the id of their service. -/
def setServiceId (id : UInt8) : Procedure Unit := do
  let map ← map MapName.service
  let values ← check .useMap (map.asArray 1)
  let values ← check (.writeMap MapName.service) (values.set 0 id.toNat)
  putMap MapName.service (.array values)
  effect (.valueSet MapName.service 0 id.toNat)
  info s!"  ✓ Service id set to {id}"

/-- Removes drained keys.  One that cannot be removed is passed over. -/
def removeDrained (table : HashTable UInt64) : List UInt64 → Procedure (HashTable UInt64)
  | [] => return table
  | key :: rest => do
    match table.remove key with
    | .ok table =>
      effect (.keyRemoved MapName.correlations key)
      removeDrained table rest
    | .error error =>
      debug s!"Correlation {key} already gone: {error.text}"
      removeDrained table rest

/-- Takes the recorded correlations out of their map. -/
def drain : Procedure (List Correlation) := do
  let map ← map MapName.correlations
  let table ← check .useMap map.asNumbers
  let (read, table) := table.walk
  putMap MapName.correlations (.numbers table)
  let entries ← check (.readMap MapName.correlations) read
  let table ← removeDrained table (entries.map (·.1))
  putMap MapName.correlations (.numbers table)
  return entries.map fun (sequence, requestId) => ⟨sequence, requestId⟩

/-- What the path cache holds. -/
def pathCache : Procedure PathCacheStats := do
  let map ← map MapName.ringIndex
  let indices ← check .useMap (map.asArray 4)
  let head ← check .useMap (indices.get 0)
  let tail ← check .useMap (indices.get 1)
  let map ← Procedure.map MapName.paths
  let table ← check .useMap map.asPaths
  let (read, table) := table.walk
  putMap MapName.paths (.paths table)
  let entries ← check (.readMap MapName.paths) read
  return .ofSnapshot (UInt32.ofNat head) (UInt32.ofNat tail) entries

end MeshTrace.Installation
