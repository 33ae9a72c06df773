/-!
# Numbers as bytes

Words travel with their most significant byte first.  `value` reads such a byte
list as a base-256 numeral and `spell` writes the low bytes of a number; on lists
of the right length they undo each other (`value_spell`, `spell_value`).
-/

namespace MeshTrace.BigEndian

/-- The number that `bytes` spells, most significant byte first. -/
def value (bytes : List UInt8) : Nat :=
  bytes.foldl (fun total byte => 256 * total + byte.toNat) 0

/-- What a byte counts for that has `n` bytes behind it. -/
def weight : (n : Nat) → Nat
  | 0 => 1
  | n + 1 => weight n * 256

/-- The `width` low bytes of `n`, most significant first. -/
def spell : (width : Nat) → (n : Nat) → List UInt8
  | 0, _ => []
  | width + 1, n => UInt8.ofNat (n / weight width) :: spell width n

/-- The four bytes of a 32-bit word. -/
def spell32 (word : UInt32) : List UInt8 :=
  spell 4 word.toNat

/-- The eight bytes of a 64-bit word. -/
def spell64 (word : UInt64) : List UInt8 :=
  spell 8 word.toNat

@[simp] theorem length_spell (width n : Nat) : (spell width n).length = width := by
  induction width with
  | zero => rfl
  | succ width ih => simp [spell, ih]

/-- Every byte counts for something. -/
theorem weight_pos (n : Nat) : 0 < weight n := by
  induction n with
  | zero => decide
  | succ n ih => simp only [weight]; omega

@[simp] theorem value_nil : value [] = 0 := rfl

/-- Reading on from a running total scales that total by the bytes still to come. -/
theorem foldl_value (bytes : List UInt8) (total : Nat) :
    bytes.foldl (fun total byte => 256 * total + byte.toNat) total =
      total * weight bytes.length + value bytes := by
  induction bytes generalizing total with
  | nil => simp [value, weight]
  | cons byte rest ih =>
    have hrest := ih (256 * total + byte.toNat)
    have hzero := ih (256 * 0 + byte.toNat)
    simp only [value, List.foldl_cons, List.length_cons] at *
    rw [hrest, hzero, weight]
    grind

/-- The first byte counts for what the bytes behind it make it. -/
theorem value_cons (byte : UInt8) (rest : List UInt8) :
    value (byte :: rest) = byte.toNat * weight rest.length + value rest := by
  simp only [value, List.foldl_cons]
  rw [foldl_value]
  simp [value]

/-- A numeral stays below what a further byte in front of it would count for. -/
theorem value_lt (bytes : List UInt8) : value bytes < weight bytes.length := by
  induction bytes with
  | nil => simp [weight]
  | cons byte rest ih =>
    have hbyte : byte.toNat < 256 := byte.toNat_lt
    have hle : byte.toNat * weight rest.length ≤ 255 * weight rest.length :=
      Nat.mul_le_mul_right _ (by omega)
    rw [value_cons, List.length_cons, weight]
    omega

/-- Reading what was written gives the number back, up to the bytes cut off. -/
theorem value_spell (width n : Nat) : value (spell width n) = n % weight width := by
  induction width with
  | zero => simp [spell, weight, Nat.mod_one]
  | succ width ih =>
    rw [spell, value_cons, ih, length_spell, weight, Nat.mod_mul]
    simp only [UInt8.toNat_ofNat', Nat.reducePow]
    rw [Nat.mul_comm (weight width)]
    omega

/-- Writing depends only on the bytes that fit. -/
theorem spell_mod (width n : Nat) : spell width (n % weight width) = spell width n := by
  induction width generalizing n with
  | zero => rfl
  | succ width ih =>
    have hhead : n % weight (width + 1) / weight width = n / weight width % 256 := by
      rw [weight, Nat.mod_mul_right_div_self]
    have htail : spell width (n % weight (width + 1)) = spell width n := by
      rw [← ih (n % weight (width + 1)), ← ih n, weight, Nat.mod_mul_right_mod]
    rw [spell, spell, hhead, htail]
    congr 1
    apply UInt8.toNat_inj.mp
    simp

/-- Writing what was read gives the bytes back. -/
theorem spell_value (bytes : List UInt8) : spell bytes.length (value bytes) = bytes := by
  induction bytes with
  | nil => rfl
  | cons byte rest ih =>
    have hlt := value_lt rest
    have hhead : value (byte :: rest) / weight rest.length = byte.toNat := by
      rw [value_cons, Nat.mul_comm, Nat.mul_add_div (weight_pos _)]
      rw [Nat.div_eq_of_lt hlt, Nat.add_zero]
    have htail : spell rest.length (value (byte :: rest)) = rest := by
      rw [← spell_mod, value_cons, Nat.mul_comm, Nat.mul_add_mod, Nat.mod_eq_of_lt hlt, ih]
    rw [List.length_cons, spell, hhead, htail, UInt8.ofNat_toNat]

end MeshTrace.BigEndian
