import MeshTrace.Maps.Ring
import MeshTrace.Path
import MeshTrace.Report.Basic
import MeshTrace.Text.Format
import Std.Data.ExtTreeMap.Lemmas

/-!
# The statistics of a report

A collector keeps the request ids of all drains of a run.  Where a call number comes
again, because the maps were made anew meanwhile, the later request id counts.

A snapshot lists the cached paths by trace id, whatever the order in which the map
gives them.
-/

namespace MeshTrace

/-- The drained correlations of a run. -/
structure Collector where
  /-- Request ids by call number. -/
  records : Std.ExtTreeMap UInt64 UInt64 := ∅
  /-- How many correlations were drained. -/
  total : Nat := 0
  /-- How many times the map was drained. -/
  drains : Nat := 0

namespace Collector

/-- Adds what one drain gave. -/
def add (collector : Collector) (batch : List Correlation) : Collector where
  records := batch.foldl (fun records c => records.insert c.sequence c.requestId)
    collector.records
  total := collector.total + batch.length
  drains := collector.drains + 1

/-- The request id of a call. -/
def requestId? (collector : Collector) (sequence : UInt64) : Option UInt64 :=
  collector.records[sequence]?

/-- The collected correlations by call number. -/
def correlations (collector : Collector) : List Correlation :=
  collector.records.toList.map fun (sequence, requestId) => ⟨sequence, requestId⟩

/-- The section of a report for what was collected. -/
def stats (collector : Collector) : CorrelationStats where
  total := UInt64.ofNat collector.total
  drains := UInt64.ofNat collector.drains
  first := collector.correlations.head?.map (·.sequence)
  last := collector.correlations.getLast?.map (·.sequence)
  records := collector.correlations

end Collector

namespace PathCacheStats

/-- Entries by trace id; entries of one id keep their order. -/
def sorted (entries : List (UInt64 × Path)) : List (UInt64 × Path) :=
  entries.mergeSort fun a b => a.1 ≤ b.1

/-- The largest hop count of the entries, 0 if there are none. -/
def largestCount (entries : List (UInt64 × Path)) : UInt8 :=
  entries.foldl (fun largest entry => max largest entry.2.count) 0

/-- The line of a report for an entry. -/
def line (entry : UInt64 × Path) : CachedPath :=
  ⟨Text.traceId entry.1, entry.2.hops⟩

/-- The statistics of a cache with this ring and these entries. -/
def ofSnapshot (head tail : UInt32) (entries : List (UInt64 × Path)) : PathCacheStats where
  cachedPaths := UInt64.ofNat entries.length
  ringHead := head
  ringTail := tail
  ringOccupancy := Ring.occupancy head tail
  maxHops := largestCount entries
  paths := (sorted entries).map line

end PathCacheStats

end MeshTrace
