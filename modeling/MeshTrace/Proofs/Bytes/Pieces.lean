import MeshTrace.Proofs.Frame.RoundTrip

/-!
# What stands at an offset

A piece stands at an offset if the bytes from there on start with it.  Two pieces stand there
one behind the other exactly if the first does, and the second where the first ends
(`append_prefix_drop_iff`).  A read succeeds exactly if what it reads stands at its offset
(`byte?_eq_some_iff_prefix`, `word32?_eq_some_iff_prefix`, `word64?_eq_some_iff_prefix`).  So a
parser that reads here and there accepts the messages whose pieces stand where it reads.
-/

namespace MeshTrace.Bytes

variable {bytes : List UInt8} {offset : Nat}

/-- **Pieces stand one behind the other.** -/
theorem append_prefix_drop_iff {left right : List UInt8} :
    left ++ right <+: bytes.drop offset ↔
      left <+: bytes.drop offset ∧ right <+: bytes.drop (offset + left.length) := by
  constructor
  · rintro ⟨rest, hrest⟩
    refine ⟨⟨right ++ rest, by rw [← hrest, List.append_assoc]⟩, rest, ?_⟩
    rw [← List.drop_drop, ← hrest, List.append_assoc, List.drop_left]
  · rintro ⟨⟨behind, hbehind⟩, rest, hrest⟩
    rw [← List.drop_drop, ← hbehind, List.drop_left] at hrest
    exact ⟨rest, by rw [← hbehind, ← hrest, List.append_assoc]⟩

/-- Where there are enough bytes, some piece stands. -/
theorem exists_prefix_drop {count : Nat} (h : offset + count ≤ bytes.length) :
    ∃ piece : List UInt8, piece.length = count ∧ piece <+: bytes.drop offset := by
  refine ⟨(bytes.drop offset).take count, ?_, List.take_prefix _ _⟩
  rw [List.length_take, List.length_drop]
  omega

/-- A piece that stands somewhere ends inside the bytes. -/
theorem le_length_of_prefix_drop {piece : List UInt8} (h : piece <+: bytes.drop offset)
    (hpiece : piece ≠ []) : offset + piece.length ≤ bytes.length := by
  have hfits := h.length_le
  have hpos := List.length_pos_iff.mpr hpiece
  rw [List.length_drop] at hfits
  omega

/-- A byte is read where it is the next one. -/
theorem byte?_eq_some_iff_prefix {byte : UInt8} :
    byte? bytes offset = some byte ↔ [byte] <+: bytes.drop offset := by
  rw [byte?, ← List.head?_drop, List.head?_eq_some_iff]
  constructor
  · rintro ⟨rest, hrest⟩
    exact ⟨rest, hrest.symm⟩
  · rintro ⟨rest, hrest⟩
    exact ⟨rest, hrest.symm⟩

/-- A piece that is not empty is read where it comes next. -/
theorem slice?_eq_some_iff_prefix {piece : List UInt8} (hpiece : piece ≠ []) :
    slice? bytes offset piece.length = some piece ↔ piece <+: bytes.drop offset := by
  rw [slice?_eq_some_iff, List.prefix_iff_eq_take]
  refine and_iff_right_of_imp fun htake => ?_
  exact le_length_of_prefix_drop (List.prefix_iff_eq_take.mpr htake) hpiece

/-- Four bytes spell the word that is read from them. -/
theorem spell32_ofNat_value {piece : List UInt8} (h : piece.length = 4) :
    BigEndian.spell32 (UInt32.ofNat (BigEndian.value piece)) = piece := by
  have hlt : BigEndian.value piece < UInt32.size := by
    have hvalue := BigEndian.value_lt piece
    rwa [h] at hvalue
  have hspell := BigEndian.spell_value piece
  rw [h] at hspell
  rw [BigEndian.spell32, UInt32.toNat_ofNat_of_lt' hlt]
  exact hspell

theorem word32?_eq_some_iff_prefix {word : UInt32} :
    word32? bytes offset = some word ↔ BigEndian.spell32 word <+: bytes.drop offset := by
  have hlength : (BigEndian.spell32 word).length = 4 := BigEndian.length_spell _ _
  have hpiece : BigEndian.spell32 word ≠ [] := List.ne_nil_of_length_eq_add_one hlength
  rw [← slice?_eq_some_iff_prefix hpiece, hlength, word32?, Option.map_eq_some_iff]
  constructor
  · rintro ⟨piece, hslice, rfl⟩
    rw [hslice, spell32_ofNat_value (length_of_slice? hslice)]
  · intro hslice
    exact ⟨_, hslice, BigEndian.ofNat_value_spell32 word⟩

/-- A word of 64 bits is read where its spelling comes next. -/
theorem word64?_eq_some_iff_prefix {word : UInt64} :
    word64? bytes offset = some word ↔ BigEndian.spell64 word <+: bytes.drop offset := by
  have hlength : (BigEndian.spell64 word).length = Context.traceIdSize :=
    Context.length_spell64 word
  have hpiece : BigEndian.spell64 word ≠ [] := List.ne_nil_of_length_eq_add_one hlength
  rw [Context.word64?_eq_some_iff, ← hlength, slice?_eq_some_iff_prefix hpiece]

end MeshTrace.Bytes
