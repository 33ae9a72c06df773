import MeshTrace.Bytes.BigEndian

/-!
# Bounds-checked reads

A parser reads a message only through these functions.  Each checks its own range,
and a read that leaves the bytes gives `none`; the parser then gives up and the
message goes out as it is.
-/

namespace MeshTrace.Bytes

/-- The byte at `offset`. -/
def byte? (bytes : List UInt8) (offset : Nat) : Option UInt8 :=
  bytes[offset]?

/-- The `count` bytes from `offset` on, if all of them are there. -/
def slice? (bytes : List UInt8) (offset count : Nat) : Option (List UInt8) :=
  if offset + count ≤ bytes.length then some ((bytes.drop offset).take count) else none

/-- The big-endian 32-bit word at `offset`. -/
def word32? (bytes : List UInt8) (offset : Nat) : Option UInt32 :=
  (slice? bytes offset 4).map fun word => UInt32.ofNat (BigEndian.value word)

/-- The big-endian 64-bit word at `offset`. -/
def word64? (bytes : List UInt8) (offset : Nat) : Option UInt64 :=
  (slice? bytes offset 8).map fun word => UInt64.ofNat (BigEndian.value word)

/-- `bytes` with those from `offset` on overwritten by `data`, if all of `data` fits. -/
def overwrite? (bytes : List UInt8) (offset : Nat) (data : List UInt8) : Option (List UInt8) :=
  if offset + data.length ≤ bytes.length then
    some (bytes.take offset ++ data ++ bytes.drop (offset + data.length))
  else none

/-- A slice is read exactly when it lies inside the bytes. -/
theorem slice?_eq_some_iff {bytes : List UInt8} {offset count : Nat} {piece : List UInt8} :
    slice? bytes offset count = some piece ↔
      offset + count ≤ bytes.length ∧ piece = (bytes.drop offset).take count := by
  unfold slice?
  by_cases h : offset + count ≤ bytes.length <;> simp [h, eq_comm]

/-- A slice that is read has the length asked for. -/
theorem length_of_slice? {bytes : List UInt8} {offset count : Nat} {piece : List UInt8}
    (h : slice? bytes offset count = some piece) : piece.length = count := by
  obtain ⟨hfit, rfl⟩ := slice?_eq_some_iff.mp h
  simp only [List.length_take, List.length_drop]
  omega

/-- Bytes put behind do not change a slice that was already inside. -/
theorem slice?_append {bytes : List UInt8} {offset count : Nat} (rest : List UInt8)
    (h : offset + count ≤ bytes.length) :
    slice? (bytes ++ rest) offset count = slice? bytes offset count := by
  have hlong : offset + count ≤ (bytes ++ rest).length := by
    rw [List.length_append]; omega
  rw [slice?, slice?, if_pos h, if_pos hlong, List.drop_append_of_le_length (by omega),
    List.take_append_of_le_length (by rw [List.length_drop]; omega)]

/-- Overwriting keeps the number of bytes. -/
theorem length_of_overwrite? {bytes data result : List UInt8} {offset : Nat}
    (h : overwrite? bytes offset data = some result) : result.length = bytes.length := by
  unfold overwrite? at h
  split at h
  · cases h
    simp only [List.length_append, List.length_take, List.length_drop]
    omega
  · cases h

end MeshTrace.Bytes
