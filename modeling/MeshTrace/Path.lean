/-!
# Call paths

The path of a trace is the list of services that its calls went through, newest
first.  It travels as a record of fixed size: a hop count and one hundred one-byte
slots.  A record taken off the wire may hold any count and any bytes behind its
hops; a record made by `extend` counts at most `maxHops` hops and ends in zeros.
-/

namespace MeshTrace

/-- The number of hop slots of a path record. -/
def pathSlots : Nat := 100

/-- The number of bytes of a path record. -/
def pathRecordSize : Nat := pathSlots + 1

/-- The largest hop count that extending a path gives. -/
def maxHops : Nat := 99

/-- The call path of a trace as it is stored and sent. -/
@[ext] structure Path where
  /-- How many of the slots hold hops. -/
  count : UInt8
  /-- Service ids, newest first, and whatever lies behind them. -/
  slots : List UInt8
  length_slots : slots.length = pathSlots
deriving DecidableEq

namespace Path

/-- The first `size` of `bytes`, filled up with zeros. -/
def padded (bytes : List UInt8) (size : Nat) : List UInt8 :=
  (bytes ++ List.replicate size 0).take size

/-- Padding brings a list to its size, whether it was too short or too long. -/
@[simp] theorem length_padded (bytes : List UInt8) (size : Nat) :
    (padded bytes size).length = size := by
  simp [padded]

/-- The record without hops. -/
def empty : Path := ⟨0, List.replicate pathSlots 0, by simp⟩

/-- The path of a trace that starts at `service`. -/
def single (service : UInt8) : Path := ⟨1, padded [service] pathSlots, by simp⟩

/-- The recorded hops, newest first. -/
def hops (path : Path) : List UInt8 :=
  path.slots.take path.count.toNat

/-- The `n`th hop, counted from the newest, if it is recorded. -/
def hop? (path : Path) (n : Nat) : Option UInt8 :=
  if n < path.count.toNat then path.slots[n]? else none

/-- The hop count that follows `count`. -/
def nextCount (count : UInt8) : Nat :=
  min (count.toNat + 1) maxHops

/-- `path` with `service` as its newest hop.  Older hops move back one slot, hops
beyond the largest count are dropped, and nothing is left behind the hops. -/
def extend (path : Path) (service : UInt8) : Path where
  count := UInt8.ofNat (nextCount path.count)
  slots := padded ((service :: path.slots).take (nextCount path.count)) pathSlots
  length_slots := by simp

/-- The record as bytes, hop count first. -/
def toBytes (path : Path) : List UInt8 :=
  path.count :: path.slots

/-- The record that a list of bytes spells, if the list has the right length. -/
def ofBytes? (bytes : List UInt8) : Option Path :=
  match bytes with
  | [] => none
  | count :: slots => if h : slots.length = pathSlots then some ⟨count, slots, h⟩ else none

/-- The record whose first bytes are `bytes` and whose other bytes are zero. -/
def ofLeadingBytes (bytes : List UInt8) : Path :=
  ⟨bytes.headD 0, padded bytes.tail pathSlots, by simp⟩

@[simp] theorem length_toBytes (path : Path) : path.toBytes.length = pathRecordSize := by
  simp [toBytes, path.length_slots, pathRecordSize]

/-- A record is read back from its bytes. -/
@[simp] theorem ofBytes?_toBytes (path : Path) : ofBytes? path.toBytes = some path := by
  simp [ofBytes?, toBytes, path.length_slots]

/-- Only the bytes of a record spell it. -/
theorem toBytes_of_ofBytes? {bytes : List UInt8} {path : Path}
    (h : ofBytes? bytes = some path) : path.toBytes = bytes := by
  unfold ofBytes? at h
  split at h
  · cases h
  · split at h
    · cases h; rfl
    · cases h

end Path

end MeshTrace
