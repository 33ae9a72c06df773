import MeshTrace.Json.Document
import MeshTrace.Json.Value

/-!
# Texts and numbers are read as they were written

A character of a text is written as itself or as an escape.  Either way it is read as one
piece that spells it (`Spells`), so a text is read up to its closing quote and spells what
was written (`readText_quote`).  A number is written with the digits that stand for it and
without a leading zero, so it is read if no more of a number stands behind it
(`readNumber_digits`).
-/

namespace MeshTrace.Json

/-! Texts -/

/-- A hexadecimal digit is read as its value. -/
theorem hexValue?_hexDigit {n : Nat} (h : n < 16) : hexValue? (hexDigit n) = some n := by
  revert n
  decide

/-- The unit of an escaped control character is its number. -/
theorem unit?_control {n : Nat} (h : n < 0x20) :
    unit? '0' '0' (hexDigit (n / 16)) (hexDigit (n % 16)) = some n := by
  have hhigh := hexValue?_hexDigit (show n / 16 < 16 by omega)
  have hlow := hexValue?_hexDigit (show n % 16 < 16 by omega)
  have hzero : hexValue? '0' = some 0 := rfl
  simp only [unit?, hhigh, hlow, hzero, Option.pure_def, Option.bind_eq_bind, Option.bind_some,
    Option.some.injEq]
  omega

/-- The piece is read from what is written of the character, and spells it. -/
structure Spells (piece : Piece) (c : Char) : Prop where
  read : ∀ input, readPieces (escape c ++ input) =
    (readPieces input).map fun (pieces, rest) => (piece :: pieces, rest)
  spell : ∀ pieces, spell? (piece :: pieces) = (spell? pieces).map (c :: ·)

/-- A character that is written with a backslash and a letter. -/
theorem spells_of_letter {c letter : Char} (hescape : escape c = ['\\', letter])
    (hletter : letter ≠ 'u') (hunescape : unescape? letter = some c) : Spells (.char c) c where
  read input := by
    rw [hescape, List.cons_append, List.cons_append, List.nil_append,
      readPieces.eq_4 _ _ fun _ _ _ _ _ h => absurd h hletter, hunescape]
    cases readPieces input <;> rfl
  spell _ := rfl

/-- A control character that is written with its number. -/
theorem spells_of_number {c : Char} (hcontrol : c.toNat < 0x20)
    (hescape : escape c =
      ['\\', 'u', '0', '0', hexDigit (c.toNat / 16), hexDigit (c.toNat % 16)]) :
    Spells (.unit c.toNat) c where
  read input := by
    rw [hescape]
    simp only [List.cons_append, List.nil_append]
    rw [readPieces, unit?_control hcontrol]
    cases readPieces input <;> rfl
  spell pieces := by
    have hplain : c.toNat < 0xD800 ∨ 0xDFFF < c.toNat := .inl (by omega)
    rw [spell?.eq_def]
    simp only [if_pos hplain, Char.ofNat_toNat]

/-- A character that is written as it is. -/
theorem spells_of_plain {c : Char} (hquote : c ≠ '"') (hbackslash : c ≠ '\\')
    (hcontrol : ¬ c.toNat < 0x20) (hescape : escape c = [c]) : Spells (.char c) c where
  read input := by
    have hplain : ¬ (c = '\\' ∨ c.toNat < 0x20) := by simp [hbackslash, hcontrol]
    rw [hescape, List.singleton_append,
      readPieces.eq_5 _ _ hquote (fun _ _ _ _ _ h => absurd h hbackslash)
        fun _ _ h => absurd h hbackslash, if_neg hplain]
    cases readPieces input <;> rfl
  spell _ := rfl

/-- How a character is written: with a letter, with its number, or as it is. -/
theorem escape_cases (c : Char) :
    (∃ letter, letter ≠ 'u' ∧ escape c = ['\\', letter] ∧ unescape? letter = some c) ∨
    (c.toNat < 0x20 ∧ escape c =
      ['\\', 'u', '0', '0', hexDigit (c.toNat / 16), hexDigit (c.toNat % 16)]) ∨
    (c ≠ '"' ∧ c ≠ '\\' ∧ ¬ c.toNat < 0x20 ∧ escape c = [c]) := by
  unfold escape
  split
  · next h => exact .inl ⟨'"', by decide, rfl, by rw [h]; rfl⟩
  · next hquote =>
    split
    · next h => exact .inl ⟨'\\', by decide, rfl, by rw [h]; rfl⟩
    · next hbackslash =>
      split
      · next h => exact .inl ⟨'b', by decide, rfl, by rw [h]; rfl⟩
      split
      · next h => exact .inl ⟨'t', by decide, rfl, by rw [h]; rfl⟩
      split
      · next h => exact .inl ⟨'n', by decide, rfl, by rw [h]; rfl⟩
      split
      · next h => exact .inl ⟨'f', by decide, rfl, by rw [h]; rfl⟩
      split
      · next h => exact .inl ⟨'r', by decide, rfl, by rw [h]; rfl⟩
      split
      · next hcontrol => exact .inr (.inl ⟨hcontrol, rfl⟩)
      · next hcontrol => exact .inr (.inr ⟨hquote, hbackslash, hcontrol, rfl⟩)

/-- **Every character is spelled by one piece.** -/
theorem exists_spells (c : Char) : ∃ piece, Spells piece c := by
  rcases escape_cases c with ⟨letter, hletter, hescape, hunescape⟩ | ⟨hcontrol, hescape⟩ |
    ⟨hquote, hbackslash, hcontrol, hescape⟩
  · exact ⟨_, spells_of_letter hescape hletter hunescape⟩
  · exact ⟨_, spells_of_number hcontrol hescape⟩
  · exact ⟨_, spells_of_plain hquote hbackslash hcontrol hescape⟩

/-- What is written of several characters is read up to the quote behind it. -/
theorem readPieces_flatMap_escape (text rest : List Char) :
    ∃ pieces, readPieces (text.flatMap escape ++ '"' :: rest) = some (pieces, rest) ∧
      spell? pieces = some text := by
  induction text with
  | nil => exact ⟨[], rfl, rfl⟩
  | cons c text ih =>
      obtain ⟨pieces, hread, hspell⟩ := ih
      obtain ⟨piece, hpiece⟩ := exists_spells c
      refine ⟨piece :: pieces, ?_, ?_⟩
      · rw [List.flatMap_cons, List.append_assoc, hpiece.read, hread]
        rfl
      · rw [hpiece.spell, hspell]
        rfl

/-- **A text is read as it was written.** -/
theorem readText_quote (s : String) (rest : List Char) :
    readText (s.toList.flatMap escape ++ '"' :: rest) = some (some s, rest) := by
  obtain ⟨pieces, hread, hspell⟩ := readPieces_flatMap_escape s.toList rest
  simp [readText, hread, hspell]

/-! Numbers -/

/-- No part of a number stands in front. -/
def EndsNumber (input : List Char) : Prop :=
  ∀ c ∈ input.head?, c.isDigit = false ∧ c ≠ '.' ∧ c ≠ 'e' ∧ c ≠ 'E'

theorem endsNumber_nil : EndsNumber [] := by
  intro c h
  cases h

theorem endsNumber_cons {c : Char} (rest : List Char) (hdigit : c.isDigit = false)
    (hpoint : c ≠ '.') (he : c ≠ 'e') (hE : c ≠ 'E') : EndsNumber (c :: rest) := by
  intro d h
  cases h
  exact ⟨hdigit, hpoint, he, hE⟩

/-- What is no digit differs from every digit. -/
theorem ne_of_isDigit {c other : Char} (h : c.isDigit = true) (hother : other.isDigit = false) :
    c ≠ other := by
  rintro rfl
  rw [h] at hother
  cases hother

/-- A number is written with digits only. -/
theorem isDigit_of_mem_digits {n : Nat} {c : Char} (h : c ∈ digits n) : c.isDigit = true :=
  Nat.isDigit_of_mem_toDigits (by decide) (by decide) h

/-- The digits of a number stand for it. -/
theorem decimal_digits (n : Nat) : decimal (digits n) = n := by
  have hdecimal : decimal (digits n) = Nat.ofDigitChars 10 (digits n) 0 := by
    rw [Nat.ofDigitChars_eq_foldl]
    rfl
  rw [hdecimal, digits, Nat.ofDigitChars_ten_toDigits]

/-- A positive number does not start with a zero. -/
theorem head?_digits_ne_zero {n : Nat} (h : 0 < n) : (digits n).head? ≠ some '0' := by
  induction n using Nat.strongRecOn with
  | ind n ih =>
      by_cases hsmall : n < 10
      · have hdigit : ∀ d < 10, 0 < d → some d.digitChar ≠ some '0' := by decide
        rw [digits, Nat.toDigits_of_lt_base hsmall]
        exact hdigit n hsmall h
      · have hhead : (digits n).head? = (digits (n / 10)).head? := by
          rw [digits, Nat.toDigits_of_base_le (by decide) (by omega), List.head?_append]
          cases hmore : (Nat.toDigits 10 (n / 10)).head? with
          | none => exact absurd (List.head?_eq_none_iff.mp hmore) Nat.toDigits_ne_nil
          | some c => exact hmore.symm
        rw [hhead]
        exact ih (n / 10) (by omega) (by omega)

/-- A zero stands in front of no other digit. -/
theorem digits_ne_zero_cons (n : Nat) (c : Char) (more : List Char) :
    digits n ≠ '0' :: c :: more := by
  intro h
  rcases Nat.eq_zero_or_pos n with rfl | hpos
  · cases h
  · exact head?_digits_ne_zero hpos (by rw [h]; rfl)

/-- The digits of a number are read, and nothing behind them. -/
theorem readDigits_digits (n : Nat) {rest : List Char} (h : EndsNumber rest) :
    readDigits (digits n ++ rest) = some (digits n, rest) := by
  have hdigits : ∀ c ∈ digits n, c.isDigit = true := fun _ => isDigit_of_mem_digits
  have hrest : rest.takeWhile Char.isDigit = [] ∧ rest.dropWhile Char.isDigit = rest := by
    cases rest with
    | nil => exact ⟨rfl, rfl⟩
    | cons c more => simp [(h c rfl).1]
  unfold readDigits
  rw [List.takeWhile_append_of_pos hdigits, List.dropWhile_append_of_pos hdigits, hrest.1,
    hrest.2, List.append_nil]
  split
  · next hnone => exact absurd hnone Nat.toDigits_ne_nil
  · rfl

/-- The digits of a number are read as it, up to where the number ends. -/
theorem readInteger_digits (n : Nat) {rest : List Char} (h : EndsNumber rest) :
    readInteger (digits n ++ rest) = some (n, rest) := by
  unfold readInteger
  rw [readDigits_digits n h]
  split
  · next hzero =>
      obtain ⟨hdigits, -⟩ := Prod.mk.inj (Option.some.inj hzero)
      exact absurd hdigits (digits_ne_zero_cons n _ _)
  · next hread =>
      obtain ⟨rfl, rfl⟩ := Prod.mk.inj (Option.some.inj hread)
      rw [decimal_digits]
  · next hnone => cases hnone

/-- Where a number ends there is no fraction. -/
theorem readFraction_of_endsNumber {rest : List Char} (h : EndsNumber rest) :
    readFraction rest = some (false, rest) := by
  unfold readFraction
  split
  · exact absurd rfl (h '.' rfl).2.1
  · rfl

/-- Where a number ends there is no exponent. -/
theorem readExponent_of_endsNumber {rest : List Char} (h : EndsNumber rest) :
    readExponent rest = some (false, rest) := by
  unfold readExponent
  split
  · next e more =>
      obtain ⟨-, -, he, hE⟩ := h e rfl
      simp [he, hE]
  · rfl

/-- A number is written with a digit in front. -/
theorem exists_digits_eq_cons (n : Nat) : ∃ c more, digits n = c :: more ∧ c.isDigit = true := by
  cases hdigits : digits n with
  | nil => exact absurd hdigits Nat.toDigits_ne_nil
  | cons c more => exact ⟨c, more, rfl, isDigit_of_mem_digits (by rw [hdigits]; simp)⟩

/-- **A whole number is read as it was written.** -/
theorem readNumber_digits (n : Nat) {rest : List Char} (h : EndsNumber rest) :
    readNumber (digits n ++ rest) = some (some n, rest) := by
  obtain ⟨c, more, hdigits, hc⟩ := exists_digits_eq_cons n
  have hinteger := readInteger_digits n h
  rw [hdigits, List.cons_append] at hinteger ⊢
  have hminus : c ≠ '-' := ne_of_isDigit hc rfl
  unfold readNumber
  split
  next hsign =>
  split at hsign
  · next hinput => exact absurd (List.cons.inj hinput).1 hminus
  · cases hsign
    simp [hinteger, readFraction_of_endsNumber h, readExponent_of_endsNumber h]

end MeshTrace.Json
