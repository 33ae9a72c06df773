import MeshTrace.Proofs.Header.FirstTracing

/-!
# Blocks of plain fields

A plain field comes from the tables as a whole, or enters the dynamic table under a name of
its own.  What a scan makes of a block of plain fields depends on the names in it alone
(`tracingAt_of_plain`).  If none is the tracing header's, the scan gets through and the cursor
has moved on once for each new name (`walk_unmarked`, `foldl_passed`).  If one is, the scan
stops at the first such field (`walk_marked`).
-/

namespace MeshTrace

open Header Propagation

namespace Field

/-- A complete field that comes from the tables as a whole, or enters the dynamic table under
a name of its own. -/
def Plain (field : Field) : Prop :=
  field.WellFormed ∧
    match field with
    | indexed _ => True
    | newName lead .. => lead = 0x40
    | sizeUpdate _ | indexedName .. => False

instance (field : Field) : Decidable field.Plain :=
  match field with
  | indexed _ => inferInstanceAs (Decidable (_ ∧ True))
  | newName lead .. => inferInstanceAs (Decidable (_ ∧ lead = 0x40))
  | sizeUpdate _ | indexedName .. => inferInstanceAs (Decidable (_ ∧ False))

/-- Whether the name that a field spells out is the tracing header's. -/
def spellsTracing : Field → Bool
  | newName _ _ name .. => name == tracingName
  | indexed _ | sizeUpdate _ | indexedName .. => false

variable {field : Field}

/-- The cursor plays no part in finding the tracing header among plain fields. -/
theorem Plain.isTracing_eq (h : field.Plain) (cursor : Option UInt8) :
    field.isTracing cursor = field.spellsTracing := by
  obtain ⟨-, hkind⟩ := h
  cases field with
  | indexed lead => rfl
  | newName lead nameLength name valueLength value =>
      obtain rfl : lead = 0x40 := hkind
      exact Bool.true_and _
  | sizeUpdate lead | indexedName lead valueLength value => exact hkind.elim

/-- A plain field that spells a name out enters the table. -/
theorem Plain.lead_eq (h : field.Plain) (hspells : field.spellsTracing) : field.lead = 0x40 := by
  cases field with
  | newName lead nameLength name valueLength value => exact h.2
  | indexed lead | sizeUpdate lead | indexedName lead valueLength value => cases hspells

/-- The spelling of a field starts with its leading byte. -/
theorem head?_encode (field : Field) : field.encode.head? = some field.lead := by
  cases field <;> rfl

/-- A field takes a leading byte, two length bytes and two texts at most. -/
theorem length_encode_le (h : field.WellFormed) : field.encode.length ≤ maxFieldSize := by
  obtain ⟨-, hlengths⟩ := h
  cases field with
  | indexed lead | sizeUpdate lead =>
      show 1 ≤ maxFieldSize
      decide
  | newName lead nameLength name valueLength value =>
      obtain ⟨hname, hvalue⟩ := hlengths
      have hnameLength := lengthOf_le nameLength
      have hvalueLength := lengthOf_le valueLength
      simp only [encode, List.length_append, List.length_cons]
      unfold maxFieldSize
      omega
  | indexedName lead valueLength value =>
      have hvalue : lengthOf valueLength = value.length := hlengths
      have hvalueLength := lengthOf_le valueLength
      simp only [encode, List.length_cons]
      unfold maxFieldSize
      omega

/-- A block is no longer than that for each of its fields. -/
theorem length_encodeAll_le {block : List Field} (h : ∀ field ∈ block, field.WellFormed) :
    (encodeAll block).length ≤ maxFieldSize * block.length := by
  induction block with
  | nil => exact Nat.zero_le _
  | cons field rest ih =>
      obtain ⟨hfield, hrest⟩ := List.forall_mem_cons.mp h
      have hhead := length_encode_le hfield
      have htail := ih hrest
      have hall : (encodeAll (field :: rest)).length =
          field.encode.length + (encodeAll rest).length := by simp [encodeAll]
      rw [hall, List.length_cons, Nat.mul_succ]
      omega

end Field

namespace Header

/-- The place in the table of a name behind which `count` others entered it, as far as a byte
can tell. -/
def placeBehind (count : Nat) : UInt8 :=
  UInt8.ofNat (min 255 (62 + count))

/-- A place that is too large for a byte stays at 255. -/
theorem toNat_placeBehind (count : Nat) : (placeBehind count).toNat = min 255 (62 + count) := by
  rw [placeBehind, UInt8.toNat_ofNat']
  omega

/-- The tracing header's place moves on by the new names of a block. -/
theorem foldl_passed (block : List Field) (count : Nat) :
    block.foldl Field.passed (some (placeBehind count)) =
      some (placeBehind (count + newNames block)) := by
  rw [foldl_passed_eq_running]
  refine congrArg some (UInt8.toNat_inj.mp ?_)
  rw [toNat_placeBehind, UInt8.toNat_ofNat', toNat_placeBehind]
  omega

variable {block : List Field}

/-- Among plain fields the tracing header is told by its name. -/
theorem tracingAt_of_plain (hplain : ∀ field ∈ block, field.Plain) (cursor : Option UInt8)
    (place : Nat) :
    tracingAt cursor block place = block[place]?.any Field.spellsTracing := by
  unfold tracingAt
  cases hfield : block[place]? with
  | none => rfl
  | some field => exact (hplain field (List.mem_of_getElem? hfield)).isTracing_eq _

/-- **A scan of plain fields without the tracing header** gets through them. -/
theorem walk_unmarked (hplain : ∀ field ∈ block, field.Plain)
    (hunmarked : ∀ field ∈ block, field.spellsTracing = false) {budget : Nat}
    (hbudget : block.length ≤ budget) (cursor : Option UInt8) (offset : Nat) :
    walk block budget cursor offset =
      .through (budget - block.length) (block.foldl Field.passed cursor) := by
  have huntraced : ∀ place < budget, tracingAt cursor block place = false := by
    intro place _
    rw [tracingAt_of_plain hplain]
    cases hfield : block[place]? with
    | none => rfl
    | some field => exact hunmarked field (List.mem_of_getElem? hfield)
  rw [walk_of_untraced huntraced, if_neg (Nat.not_lt.mpr hbudget), foldl_passed_eq_running]

/-- **A scan of plain fields with the tracing header** stops at the first field that spells
it. -/
theorem walk_marked (hplain : ∀ field ∈ block, field.Plain)
    (hmarked : block.any Field.spellsTracing) {budget : Nat}
    (hbudget : block.length ≤ budget) (cursor : Option UInt8) (offset : Nat) :
    ∃ skipped found rest after, block = skipped ++ found :: rest ∧ found.spellsTracing ∧
      walk block budget cursor offset =
        .ended (.found (offset + (Field.encodeAll skipped).length)) after := by
  rcases exists_isFirstTracing_or cursor block budget with ⟨place, hplace, hfirst⟩ | hnone
  · have hspells := hfirst.tracing
    rw [tracingAt_of_plain hplain, Option.any_eq_true] at hspells
    obtain ⟨found, hfound, hspells⟩ := hspells
    obtain ⟨hbound, rfl⟩ := List.getElem?_eq_some_iff.mp hfound
    have hblock : block = block.take place ++ block[place] :: block.drop (place + 1) := by
      rw [← List.drop_eq_getElem_cons hbound, List.take_append_drop]
    exact ⟨_, _, _, _, hblock, hspells, walk_of_isFirstTracing hfirst hplace offset⟩
  · obtain ⟨field, hmem, hspells⟩ := List.any_eq_true.mp hmarked
    obtain ⟨place, hfield⟩ := List.mem_iff_getElem?.mp hmem
    have hplace : place < block.length := (List.getElem?_eq_some_iff.mp hfield).1
    have hother := hnone place (Nat.lt_of_lt_of_le hplace hbudget)
    rw [tracingAt_of_plain hplain, hfield, Option.any_some, hspells] at hother
    cases hother

/-- The leading byte of a field, where the fields in front of it end. -/
theorem byte?_headersFrame {flags : List UInt8} (hflags : flags.length = 5)
    (skipped rest : List Field) (field : Field) :
    Bytes.byte? (headersFrame flags (skipped ++ field :: rest))
        (Frame.headerSize + (Field.encodeAll skipped).length) = some field.lead := by
  let block := skipped ++ field :: rest
  let before := BigEndian.spell32 (Frame.word Frame.headersType (Field.encodeAll block).length) ++
    (flags ++ Field.encodeAll skipped)
  have hbefore : before.length = Frame.headerSize + (Field.encodeAll skipped).length := by
    simp only [before, List.length_append, BigEndian.spell32, BigEndian.length_spell, hflags]
    unfold Frame.headerSize
    omega
  have hframe : headersFrame flags block = before ++ (field.encode ++ Field.encodeAll rest) := by
    simp [headersFrame, before, block, Field.encodeAll]
  have hbyte := Bytes.byte?_append_right before (field.encode ++ Field.encodeAll rest) 0
  rw [hframe, ← hbefore, ← Nat.add_zero before.length, hbyte, Bytes.byte?,
    ← List.head?_eq_getElem?, List.head?_append, field.head?_encode]
  rfl

end Header

end MeshTrace
