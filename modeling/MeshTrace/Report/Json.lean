import MeshTrace.Json.Access
import MeshTrace.Json.Document
import MeshTrace.Report.Basic

/-!
# Reports as documents

A report is written as a record with its fields in a fixed order.  What is read may
give the fields in any order, leave out the ones that can be absent, and bring others,
which are skipped; or it is a list of all the fields in order.
-/

namespace MeshTrace

open Json

/-! Writing -/

/-- A value that can be absent. -/
def Json.Document.optional {α : Type} (write : α → Document) : Option α → Document
  | none => .null
  | some a => write a

/-- A correlation as a document. -/
def Correlation.toDocument (c : Correlation) : Document :=
  .record [("sequence", .integer c.sequence.toNat), ("request_id", .integer c.requestId.toNat)]

/-- The drained correlations as a document. -/
def CorrelationStats.toDocument (s : CorrelationStats) : Document :=
  .record [
    ("total", .integer s.total.toNat),
    ("drains", .integer s.drains.toNat),
    ("first_sequence", .optional (.integer ·.toNat) s.first),
    ("last_sequence", .optional (.integer ·.toNat) s.last),
    ("records", .list (s.records.map (·.toDocument)))]

/-- A cached path as a document. -/
def CachedPath.toDocument (p : CachedPath) : Document :=
  .record [("trace_id", .text p.traceId), ("hops", .list (p.hops.map (.integer ·.toNat)))]

/-- The path cache as a document. -/
def PathCacheStats.toDocument (s : PathCacheStats) : Document :=
  .record [
    ("cached_paths", .integer s.cachedPaths.toNat),
    ("ring_head", .integer s.ringHead.toNat),
    ("ring_tail", .integer s.ringTail.toNat),
    ("ring_occupancy", .integer s.ringOccupancy.toNat),
    ("max_hops", .integer s.maxHops.toNat),
    ("paths", .list (s.paths.map (·.toDocument)))]

/-- A report as a document. -/
def Report.toDocument (r : Report) : Document :=
  .record [
    ("timestamp", .text r.timestamp),
    ("duration_seconds", .integer r.durationSeconds.toNat),
    ("pod", .text r.pod),
    ("protocol", .text r.protocol.name),
    ("service_id", .optional (.integer ·.toNat) r.serviceId),
    ("correlations", r.correlations.toDocument),
    ("path_cache", .optional (·.toDocument) r.pathCache)]

/-- The text of a report. -/
def Report.render (layout : Layout) (r : Report) : String :=
  r.toDocument.render layout

/-! Reading -/

namespace Json.Value

/-- A protocol: its name, or a record with that single field and no value. -/
def protocol? : Value → Option Protocol
  | .text (some name) => Protocol.ofName? name
  | .record [(some name, .null)] => Protocol.ofName? name
  | _ => none

end Json.Value

open Json.Value

/-- Reads a correlation. -/
def Correlation.ofValue? (v : Value) : Option Correlation := do
  match ← v.parts? ["sequence", "request_id"] with
  | [some sequence, some requestId] => return ⟨← u64? sequence, ← u64? requestId⟩
  | _ => none

/-- Reads drained correlations. -/
def CorrelationStats.ofValue? (v : Value) : Option CorrelationStats := do
  match ← v.parts? ["total", "drains", "first_sequence", "last_sequence", "records"] with
  | [some total, some drains, first, last, some records] =>
    return {
      total := ← u64? total
      drains := ← u64? drains
      first := ← optional? u64? first
      last := ← optional? u64? last
      records := ← list? Correlation.ofValue? records }
  | _ => none

/-- Reads a cached path. -/
def CachedPath.ofValue? (v : Value) : Option CachedPath := do
  match ← v.parts? ["trace_id", "hops"] with
  | [some traceId, some hops] => return ⟨← text? traceId, ← list? u8? hops⟩
  | _ => none

/-- Reads a path cache. -/
def PathCacheStats.ofValue? (v : Value) : Option PathCacheStats := do
  match ← v.parts? ["cached_paths", "ring_head", "ring_tail", "ring_occupancy", "max_hops",
      "paths"] with
  | [some cachedPaths, some head, some tail, some occupancy, some maxHops, some paths] =>
    return {
      cachedPaths := ← u64? cachedPaths
      ringHead := ← u32? head
      ringTail := ← u32? tail
      ringOccupancy := ← u32? occupancy
      maxHops := ← u8? maxHops
      paths := ← list? CachedPath.ofValue? paths }
  | _ => none

/-- Reads a report. -/
def Report.ofValue? (v : Value) : Option Report := do
  match ← v.parts? ["timestamp", "duration_seconds", "pod", "protocol", "service_id",
      "correlations", "path_cache"] with
  | [some timestamp, some duration, some pod, some protocol, serviceId, some correlations,
      pathCache] =>
    return {
      timestamp := ← text? timestamp
      durationSeconds := ← u64? duration
      pod := ← text? pod
      protocol := ← protocol? protocol
      serviceId := ← optional? u8? serviceId
      correlations := ← CorrelationStats.ofValue? correlations
      pathCache := ← optional? PathCacheStats.ofValue? pathCache }
  | _ => none

/-- The report that a text spells. -/
def Report.ofText? (text : String) : Option Report :=
  (Value.ofText? text).bind Report.ofValue?

end MeshTrace
