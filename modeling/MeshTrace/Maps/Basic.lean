import MeshTrace.Header.Scan
import MeshTrace.Maps.Cell
import MeshTrace.Maps.Ring
import MeshTrace.Maps.Table
import MeshTrace.Names
import MeshTrace.Path

/-!
# The shared maps

All programs of a service work on the same maps: two argument slots that carry a
scan from one program to the next, a cursor for every peer, the cached paths with
their eviction ring, the request ids of Thrift calls with the counter that numbers
them, and the service's own id.
-/

namespace MeshTrace

/-- The argument slots that outlive one program. -/
structure ArgSlots where
  offset : Cell UInt32 := {}
  frameLength : Cell UInt32 := {}
deriving Repr, DecidableEq

namespace ArgSlots

/-- Leaves a continuation for the next pass. -/
def save (slots : ArgSlots) (rest : Continuation) : ArgSlots :=
  ⟨slots.offset.set rest.offset, slots.frameLength.set rest.frameLength⟩

/-- Leaves the offset of the tracing header. -/
def saveFound (slots : ArgSlots) (offset : UInt32) : ArgSlots :=
  { slots with offset := slots.offset.set offset }

/-- A number from a slot, unless it is too large to stem from a scan. -/
def bounded? (cell : Cell UInt32) : Option UInt32 :=
  cell.get?.filter (· ≤ Header.maxOffset)

/-- The continuation that an earlier pass left. -/
def load? (slots : ArgSlots) : Option Continuation :=
  (bounded? slots.offset).bind fun offset =>
    (bounded? slots.frameLength).map fun frameLength => ⟨offset, frameLength⟩

end ArgSlots

/-- Everything that the programs of one service share. -/
structure Maps where
  args : ArgSlots := {}
  /-- Where each peer's dynamic table holds the tracing header, by the peer's address. -/
  cursors : Table UInt32 UInt8 := .empty
  /-- Received paths that wait for the next outbound message of their trace. -/
  paths : Table UInt64 Path := .empty
  ring : Ring := .fresh
  /-- The number of the next Thrift call. -/
  counter : Cell UInt64 := {}
  /-- Request ids by the number of their call. -/
  correlations : Table UInt64 UInt64 := .empty
  service : Cell UInt8 := {}

namespace Maps

/-- The largest number of peers with a cursor. -/
def maxCursors : Nat := 65535

/-- The largest number of calls whose request id is remembered. -/
def maxCorrelations : Nat := 65535

/-- The maps as a kernel makes them, with limited room. -/
def bounded : Maps where
  cursors := .empty (some maxCursors)
  paths := .empty (some ringSize)
  correlations := .empty (some maxCorrelations)

/-- The maps when only those arrays can be looked up whose name `reachable` accepts. -/
def reaching (maps : Maps) (reachable : String → Bool) : Maps :=
  { maps with
    args := ⟨maps.args.offset.reachedIf (reachable MapName.arguments),
      maps.args.frameLength.reachedIf (reachable MapName.arguments)⟩
    ring := { maps.ring with
      head := maps.ring.head.reachedIf (reachable MapName.ringIndex)
      tail := maps.ring.tail.reachedIf (reachable MapName.ringIndex)
      reachable := reachable MapName.ring }
    counter := maps.counter.reachedIf (reachable MapName.counter)
    service := maps.service.reachedIf (reachable MapName.service) }

/-- Runs a scan with the cursor of a peer and stores the cursor that it ends with.
A peer without a cursor stays without one. -/
def withCursor (maps : Maps) (peer : UInt32) (run : Option UInt8 → Scan × Option UInt8) :
    Scan × Maps :=
  match run (maps.cursors.get? peer) with
  | (result, none) => (result, maps)
  | (result, some cursor) =>
    (result, { maps with cursors := maps.cursors.insert peer cursor })

/-- The first pass over a message to `peer`. -/
def locate (maps : Maps) (peer : UInt32) (bytes : List UInt8) : Scan × Maps :=
  maps.withCursor peer (Header.locate bytes)

/-- One pass over a message to `peer` from a given place on. -/
def scan (maps : Maps) (peer : UInt32) (bytes : List UInt8) (start : Continuation) :
    Scan × Maps :=
  maps.withCursor peer fun cursor => Header.scan bytes cursor start

/-- The second pass over a message to `peer`. -/
def resume (maps : Maps) (peer : UInt32) (bytes : List UInt8) : Scan × Maps :=
  maps.withCursor peer fun cursor => Header.resume bytes cursor maps.args.load?

/-- Leaves a continuation in the argument slots. -/
def saveContinuation (maps : Maps) (rest : Continuation) : Maps :=
  { maps with args := maps.args.save rest }

/-- Leaves the offset of the tracing header in the argument slots. -/
def saveFound (maps : Maps) (offset : UInt32) : Maps :=
  { maps with args := maps.args.saveFound offset }

end Maps

end MeshTrace
