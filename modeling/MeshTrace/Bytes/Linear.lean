import MeshTrace.Bytes.BigEndian

/-!
# Views between two addresses

A socket program does not see a list of bytes but a pair of addresses, and it must
compare an address with the end before it reads there.  Addresses are 64-bit words.
A view of several bytes checks both additions for overflow; a view of one byte takes
for granted that the second one does not overflow, and comes to no answer if it does.
-/

namespace MeshTrace

/-- Memory together with the addresses between which a program may read. -/
structure Linear where
  memory : UInt64 → UInt8
  start : UInt64
  stop : UInt64

/-- Why an address is not there. -/
inductive AddressError where
  /-- The sum of two addresses leaves the 64-bit range. -/
  | overflow
deriving Repr, DecidableEq

namespace Linear

/-- The sum of two addresses, unless it leaves the 64-bit range. -/
def add? (a b : UInt64) : Option UInt64 :=
  if a.toNat + b.toNat < UInt64.size then some (a + b) else none

/-- The number of bytes between the two addresses. -/
def size (view : Linear) : Nat :=
  view.stop.toNat - view.start.toNat

/-- The byte `offset` bytes behind the start.  The end of this one byte must be an
address. -/
def byte? (view : Linear) (offset : UInt64) : Except AddressError (Option UInt8) :=
  match add? view.start offset with
  | none => .ok none
  | some address =>
    match add? address 1 with
    | none => .error .overflow
    | some last => .ok (if last > view.stop then none else some (view.memory address))

/-- The address `offset` behind the start, if `count` bytes from there end in time. -/
def span? (view : Linear) (offset count : UInt64) : Option UInt64 :=
  (add? view.start offset).bind fun address =>
    (add? address count).bind fun last =>
      if last > view.stop then none else some address

/-- The `count` bytes from `offset` behind the start on. -/
def slice? (view : Linear) (offset count : UInt64) : Option (List UInt8) :=
  (view.span? offset count).map fun address =>
    (List.range count.toNat).map fun i => view.memory (address + UInt64.ofNat i)

/-- The big-endian 32-bit word `offset` bytes behind the start. -/
def word32? (view : Linear) (offset : UInt64) : Option UInt32 :=
  (view.slice? offset 4).map fun word => UInt32.ofNat (BigEndian.value word)

/-- The big-endian 64-bit word `offset` bytes behind the start. -/
def word64? (view : Linear) (offset : UInt64) : Option UInt64 :=
  (view.slice? offset 8).map fun word => UInt64.ofNat (BigEndian.value word)

/-- Memory that holds `bytes` from `start` on and zeros elsewhere. -/
def ofBytes (start : UInt64) (bytes : List UInt8) : Linear where
  memory address := (bytes[(address - start).toNat]?).getD 0
  start := start
  stop := start + UInt64.ofNat bytes.length

end Linear

end MeshTrace
