import MeshTrace.Json.Value
import MeshTrace.Text.Format
import Mathlib.Data.String.Basic

/-!
# Trace ids are listed as they are counted

A trace id is spelled with sixteen hexadecimal digits (`spells_traceId`).  What hexadecimal
digits spell is read from the front, each digit counting sixteen times less than the one before
it.  So of two texts with equally many digits the one that comes first spells the smaller number
(`readHex_lt_iff`), and the texts of trace ids have the order of the ids (`SpellsTraceId.lt_iff`).
-/

namespace MeshTrace.Text

/-- The lowercase hexadecimal digits. -/
def hexDigits : List Char := "0123456789abcdef".toList

/-- The number that one hexadecimal digit stands for, 0 for any other character. -/
def digitValue (c : Char) : Nat := (Json.hexValue? c).getD 0

/-- Reads hexadecimal digits behind those that spell `total`. -/
def readHex (total : Nat) (digits : List Char) : Nat :=
  digits.foldl (fun total c => 16 * total + digitValue c) total

/-- The number that the hexadecimal digits of a text spell. -/
def hexValue (text : String) : Nat := readHex 0 text.toList

/-- The text is how tracing tools print the trace id: sixteen lowercase hexadecimal digits
that spell it. -/
structure SpellsTraceId (text : String) (id : UInt64) : Prop where
  length : text.length = 16
  digits : ∀ c ∈ text.toList, c ∈ hexDigits
  value : hexValue text = id.toNat

/-! Digits -/

theorem digitValue_lt {c : Char} (h : c ∈ hexDigits) : digitValue c < 16 := by
  have hall : hexDigits.all fun c => digitValue c < 16 := by decide +kernel
  exact of_decide_eq_true (List.all_eq_true.mp hall c h)

/-- The digits come in the order of their values. -/
theorem lt_iff_digitValue_lt {c d : Char} (hc : c ∈ hexDigits) (hd : d ∈ hexDigits) :
    c < d ↔ digitValue c < digitValue d := by
  have hall : hexDigits.all fun c => hexDigits.all fun d =>
      c < d ↔ digitValue c < digitValue d := by decide +kernel
  exact of_decide_eq_true (List.all_eq_true.mp (List.all_eq_true.mp hall c hc) d hd)

/-- Every number below sixteen has a hexadecimal digit. -/
theorem digitChar_mem_hexDigits {n : Nat} (h : n < 16) : n.digitChar ∈ hexDigits := by
  revert n
  decide +kernel

theorem digitValue_digitChar {n : Nat} (h : n < 16) : digitValue n.digitChar = n := by
  revert n
  decide +kernel

/-- A number is written with hexadecimal digits only. -/
theorem mem_hexDigits_of_mem_toDigits {n : Nat} {c : Char} (h : c ∈ Nat.toDigits 16 n) :
    c ∈ hexDigits := by
  induction n using Nat.strongRecOn with
  | ind n ih =>
      by_cases hsmall : n < 16
      · rw [Nat.toDigits_of_lt_base hsmall, List.mem_singleton] at h
        rw [h]
        exact digitChar_mem_hexDigits hsmall
      · rw [Nat.toDigits_of_base_le (by decide) (Nat.le_of_not_lt hsmall), List.mem_append,
          List.mem_singleton] at h
        rcases h with hfront | rfl
        · exact ih (n / 16) (by omega) hfront
        · exact digitChar_mem_hexDigits (Nat.mod_lt n (by decide))

/-! What digits spell -/

theorem readHex_cons (total : Nat) (c : Char) (rest : List Char) :
    readHex total (c :: rest) = readHex (16 * total + digitValue c) rest := rfl

/-- What was read in front is carried on. -/
theorem readHex_append (total : Nat) (front back : List Char) :
    readHex total (front ++ back) = readHex (readHex total front) back :=
  List.foldl_append

/-- The digits of a number spell it. -/
theorem readHex_toDigits (n : Nat) : readHex 0 (Nat.toDigits 16 n) = n := by
  induction n using Nat.strongRecOn with
  | ind n ih =>
      by_cases hsmall : n < 16
      · rw [Nat.toDigits_of_lt_base hsmall]
        exact (Nat.zero_add _).trans (digitValue_digitChar hsmall)
      · have hfront := ih (n / 16) (by omega)
        have hlast := digitValue_digitChar (Nat.mod_lt n (show 0 < 16 by decide))
        rw [Nat.toDigits_of_base_le (by decide) (Nat.le_of_not_lt hsmall), readHex_append, hfront]
        show 16 * (n / 16) + digitValue (n % 16).digitChar = n
        rw [hlast]
        omega

/-- Zeros in front spell nothing. -/
theorem readHex_zeros (count : Nat) : readHex 0 (List.replicate count '0') = 0 := by
  induction count with
  | zero => rfl
  | succ count ih => exact ih

/-- What starts lower stays lower, whatever digits come behind. -/
theorem readHex_lt_readHex {low high : Nat} (h : low < high) {lows highs : List Char}
    (hlength : lows.length = highs.length) (hlows : ∀ c ∈ lows, c ∈ hexDigits) :
    readHex low lows < readHex high highs := by
  induction lows generalizing low high highs with
  | nil =>
      rw [List.eq_nil_of_length_eq_zero hlength.symm]
      exact h
  | cons c lows ih =>
      obtain ⟨d, highs, rfl⟩ := List.exists_cons_of_length_eq_add_one hlength.symm
      obtain ⟨hc, hrest⟩ := List.forall_mem_cons.mp hlows
      have hdigit := digitValue_lt hc
      have hnext : 16 * low + digitValue c < 16 * high + digitValue d := by omega
      rw [readHex_cons, readHex_cons]
      exact ih hnext (Nat.succ.inj hlength) hrest

/-- **Equally many digits have the order of what they spell.** -/
theorem readHex_lt_iff (total : Nat) {front back : List Char} (hlength : front.length = back.length)
    (hfront : ∀ c ∈ front, c ∈ hexDigits) (hback : ∀ c ∈ back, c ∈ hexDigits) :
    front < back ↔ readHex total front < readHex total back := by
  induction front generalizing total back with
  | nil =>
      rw [List.eq_nil_of_length_eq_zero hlength.symm]
      exact iff_of_false (List.lt_irrefl _) (Nat.lt_irrefl _)
  | cons c front ih =>
      obtain ⟨d, back, rfl⟩ := List.exists_cons_of_length_eq_add_one hlength.symm
      obtain ⟨hc, hfronts⟩ := List.forall_mem_cons.mp hfront
      obtain ⟨hd, hbacks⟩ := List.forall_mem_cons.mp hback
      have hrest : front.length = back.length := Nat.succ.inj hlength
      rw [List.cons_lt_cons_iff, readHex_cons, readHex_cons]
      -- The first digits that differ decide, both in the text and in the number.
      rcases Nat.lt_trichotomy (digitValue c) (digitValue d) with hlt | heq | hgt
      · have hlower : 16 * total + digitValue c < 16 * total + digitValue d := by omega
        have hcd : c < d := (lt_iff_digitValue_lt hc hd).mpr hlt
        exact iff_of_true (Or.inl hcd) (readHex_lt_readHex hlower hrest hfronts)
      · have hcd : ¬ c < d := mt (lt_iff_digitValue_lt hc hd).mp (by omega)
        have hdc : ¬ d < c := mt (lt_iff_digitValue_lt hd hc).mp (by omega)
        obtain rfl : c = d := Char.le_antisymm (Char.not_lt.mp hdc) (Char.not_lt.mp hcd)
        simp only [hcd, false_or, true_and]
        exact ih _ hrest hfronts hbacks
      · have hhigher : 16 * total + digitValue d < 16 * total + digitValue c := by omega
        have hgreater := readHex_lt_readHex hhigher hrest.symm hbacks
        have hcd : ¬ c < d := mt (lt_iff_digitValue_lt hc hd).mp (by omega)
        have hne : c ≠ d := fun hsame => absurd (hsame ▸ hgt) (Nat.lt_irrefl _)
        refine iff_of_false ?_ (Nat.not_lt_of_gt hgreater)
        rintro (hbefore | ⟨hsame, -⟩)
        · exact hcd hbefore
        · exact hne hsame

/-! Trace ids -/

variable {text other : String} {id later : UInt64}

/-- A trace id is written with zeros in front, up to sixteen digits. -/
theorem toList_traceId (id : UInt64) :
    (traceId id).toList =
      List.replicate (16 - (Nat.toDigits 16 id.toNat).length) '0' ++ Nat.toDigits 16 id.toNat := by
  simp only [traceId, padLeft, hex, String.toList_append, String.toList_ofList,
    String.length_ofList]

/-- **A trace id is spelled with sixteen digits.** -/
theorem spells_traceId (id : UInt64) : SpellsTraceId (traceId id) id where
  length := by
    have hfits : (Nat.toDigits 16 id.toNat).length ≤ 16 :=
      (Nat.length_toDigits_le_iff (by decide) (by decide)).mpr id.toNat_lt
    rw [← String.length_toList, toList_traceId, List.length_append, List.length_replicate]
    omega
  digits := by
    intro c hc
    rw [toList_traceId, List.mem_append] at hc
    rcases hc with hzero | hdigit
    · rw [(List.mem_replicate.mp hzero).2]
      decide
    · exact mem_hexDigits_of_mem_toDigits hdigit
  value := by
    rw [hexValue, toList_traceId, readHex_append, readHex_zeros, readHex_toDigits]

/-- **The texts of trace ids have the order of the ids.** -/
theorem SpellsTraceId.lt_iff (h : SpellsTraceId text id) (h' : SpellsTraceId other later) :
    text < other ↔ id < later := by
  have hlength : text.toList.length = other.toList.length := by
    rw [String.length_toList, String.length_toList, h.length, h'.length]
  rw [String.lt_iff_toList_lt, readHex_lt_iff 0 hlength h.digits h'.digits, UInt64.lt_iff_toNat_lt,
    ← h.value, ← h'.value]
  rfl

end MeshTrace.Text
