import MeshTrace.Frame.Context
import MeshTrace.Maps.Basic
import MeshTrace.Text.Format

/-!
# Caching received paths

A received path is stored under its trace id until the next outbound message of that
trace.  The eviction ring bounds the cache: every insertion takes the slot at the
tail, and when the tail meets the head the oldest trace is dropped.
-/

namespace MeshTrace

/-- What became of one received path. -/
inductive Cached where
  /-- It is stored and listed in the ring; a trace may have been dropped for it. -/
  | stored (evicted : Option UInt64)
  /-- It is stored, but head and tail could not be read, so nothing will drop it. -/
  | untracked
deriving Repr, DecidableEq

/-- The outcome of caching a path. -/
def Cached.text : Cached → String
  | .stored evicted => "Stored \x7b evicted: " ++ Text.optional evicted ++ " \x7d"
  | .untracked => "Untracked"

namespace Ring

/-- Lists a trace id at the tail.  When the tail then meets the head, also gives the id
in the head's slot and moves the head on. -/
def push (ring : Ring) (head tail : UInt32) (traceId : UInt64) : Option UInt64 × Ring :=
  let head := reduce head
  let tail := reduce tail
  let ring := ring.setEntry tail traceId
  let ring := { ring with tail := ring.tail.set (next tail) }
  if head ≠ next tail then (none, ring)
  else (ring.entry? head, { ring with head := ring.head.set (next head) })

end Ring

namespace Maps

/-- Stores a received path under its trace id and lists the id in the ring. -/
def cachePath (maps : Maps) (traceId : UInt64) (path : Path) : Cached × Maps :=
  let paths := maps.paths.insert traceId path
  match maps.ring.head.get?, maps.ring.tail.get? with
  | some head, some tail =>
    match maps.ring.push head tail traceId with
    | (none, ring) => (.stored none, { maps with paths, ring })
    | (some oldest, ring) =>
      (.stored (some oldest), { maps with paths := paths.erase oldest, ring })
  | _, _ => (.untracked, { maps with paths })

/-- Caches the path of a message that starts with a context frame. -/
def receive (maps : Maps) (bytes : List UInt8) : Option Cached × Maps :=
  match Context.read? bytes with
  | none => (none, maps)
  | some (traceId, path) =>
    let (outcome, maps) := maps.cachePath traceId path
    (some outcome, maps)

end Maps

end MeshTrace
