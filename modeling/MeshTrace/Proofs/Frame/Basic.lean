import MeshTrace.Frame.Basic

/-!
# The first word of a frame

The first word of a frame spells its length and its type, the length in the three high
bytes (`toNat_word`), and both are read back (`typeOf_word`, `lengthOf_word`).  A frame of
header fields never looks like text, so its first word is read from a message whatever
follows it (`firstWord?_headers`).
-/

namespace MeshTrace

/-- A word is read back from its bytes. -/
theorem BigEndian.ofNat_value_spell32 (word : UInt32) :
    UInt32.ofNat (value (spell32 word)) = word := by
  have hlt : word.toNat < weight 4 := word.toNat_lt
  rw [spell32, value_spell, Nat.mod_eq_of_lt hlt, UInt32.ofNat_toNat]

namespace Frame

/-- The largest length that fits in the three bytes of a frame's header. -/
def maxLength : Nat := 0xFFFFFF

/-- The first word of a frame has the length in its upper 24 bits and the type in the rest. -/
theorem toNat_word (type : UInt8) {length : Nat} (h : length ≤ maxLength) :
    (word type length).toNat = 256 * length + type.toNat := by
  have htype : type.toNat < 2 ^ 8 := type.toNat_lt
  have hshift : (UInt32.ofNat length <<< 8).toNat = length <<< 8 := by
    unfold maxLength at h
    simp [Nat.shiftLeft_eq]
    omega
  rw [word, UInt32.toNat_or, hshift, UInt8.toNat_toUInt32,
    ← Nat.shiftLeft_add_eq_or_of_lt htype, Nat.shiftLeft_eq]
  omega

/-- The low byte of a word is the type of its frame. -/
theorem toNat_typeOf (word : UInt32) : (typeOf word).toNat = word.toNat % 256 := by
  have hmask : (255 : UInt32).toNat = 2 ^ 8 - 1 := rfl
  rw [typeOf, UInt32.toNat_toUInt8, UInt32.toNat_and, hmask, Nat.and_two_pow_sub_one_eq_mod]
  omega

@[simp] theorem typeOf_word (type : UInt8) {length : Nat} (h : length ≤ maxLength) :
    typeOf (word type length) = type := by
  have hword := toNat_word type h
  have htype := type.toNat_lt
  rw [← UInt8.toNat_inj, toNat_typeOf, hword]
  omega

@[simp] theorem lengthOf_word (type : UInt8) {length : Nat} (h : length ≤ maxLength) :
    (lengthOf (word type length)).toNat = length := by
  have hword := toNat_word type h
  have htype := type.toNat_lt
  have hshift : (lengthOf (word type length)).toNat = (word type length).toNat >>> 8 := rfl
  rw [hshift, hword, Nat.shiftRight_eq_div_pow]
  omega

/-- Read as a frame, the text that a message may start with has a letter or a blank for its
type. -/
theorem typeOf_of_isPreamble {word : UInt32} (h : isPreamble word) :
    typeOf word = 0x50 ∨ typeOf word = 0x20 ∨ typeOf word = 0x54 := by
  simp only [isPreamble, Bool.or_eq_true, beq_iff_eq] at h
  rcases h with ((rfl | rfl) | rfl) | rfl <;> decide

/-- Text that a message may start with has another type than a frame of header fields. -/
theorem isPreamble_eq_false {word : UInt32} (h : typeOf word = headersType) :
    isPreamble word = false := by
  rw [Bool.eq_false_iff]
  intro htext
  have htype := typeOf_of_isPreamble htext
  rw [h] at htype
  exact absurd htype (by decide)

/-- The first word of a HEADERS frame is read from the message that it starts. -/
theorem firstWord?_headers {length : Nat} (h : length ≤ maxLength) (rest : List UInt8) :
    firstWord? headersType (BigEndian.spell32 (word headersType length) ++ rest) =
      some (word headersType length) := by
  have htype := typeOf_word headersType h
  have hword : Bytes.word32? (BigEndian.spell32 (word headersType length) ++ rest) 0 =
      some (word headersType length) := by
    rw [Bytes.word32?, Bytes.slice?_append rest (Nat.le_of_eq rfl)]
    exact congrArg some (BigEndian.ofNat_value_spell32 _)
  simp only [firstWord?, hword, Option.filter_some, isPreamble_eq_false htype, htype,
    Bool.not_false, beq_self_eq_true, Bool.and_self, if_true]

end Frame

end MeshTrace
