import MeshTrace.Maps.Cell

/-!
# The eviction ring

The ring lists the cached trace ids in the order of their insertion, in slots from
`head` up to but excluding `tail`, counted round a circle of `ringSize` slots.  Head
and tail come from a map that other programs may write, so they are reduced before
they are used.
-/

namespace MeshTrace

/-- The number of slots of the ring, and of the path records that are cached. -/
def ringSize : Nat := 8192

/-- The eviction ring as the programs see it. -/
structure Ring where
  /-- The slot of the oldest trace. -/
  head : Cell UInt32 := {}
  /-- The next free slot. -/
  tail : Cell UInt32 := {}
  slots : Array UInt64
  /-- Whether a look-up reaches the slots. -/
  reachable : Bool := true
deriving DecidableEq

namespace Ring

/-- The ring before the first insertion. -/
def fresh : Ring := { slots := Array.replicate ringSize 0 }

/-- A ring whose maps were never made. -/
def absent : Ring := { head := .missing, tail := .missing, slots := #[], reachable := false }

/-- A slot number on the circle. -/
def reduce (index : UInt32) : UInt32 := index % UInt32.ofNat ringSize

/-- The slot after `index` on the circle. -/
def next (index : UInt32) : UInt32 := (index + 1) % UInt32.ofNat ringSize

/-- The number of slots in use from `head` to `tail`. -/
def occupancy (head tail : UInt32) : UInt32 :=
  (reduce tail + UInt32.ofNat ringSize - reduce head) % UInt32.ofNat ringSize

/-- The trace id in a slot. -/
def entry? (ring : Ring) (slot : UInt32) : Option UInt64 :=
  if ring.reachable then ring.slots[slot.toNat]? else none

/-- Writes a trace id to a slot, if there is such a slot. -/
def setEntry (ring : Ring) (slot : UInt32) (traceId : UInt64) : Ring :=
  if ring.reachable then
    { ring with slots := ring.slots.setIfInBounds slot.toNat traceId }
  else ring

/-- The slots in use, oldest first: `count` of them from `head` on. -/
def window (ring : Ring) (head : UInt32) : (count : Nat) → List (Option UInt64)
  | 0 => []
  | count + 1 => ring.entry? head :: window ring (next head) count

end Ring

end MeshTrace
