import MeshTrace.Proofs.Header.Scan

/-!
# Scanning complete fields

A scan that meets a complete field reads the field's own bytes and no others
(`step_encode`): it stops at the tracing header (`Field.isTracing`), and goes by any other
field to the byte behind it, with the cursor moved on by a new name (`Field.passed`).

So over a whole header block a scan goes field by field (`fields_encodeAll`).  It finds
the tracing header, or runs out, or gets through the block, and then it still has some
fields to examine and looks at what follows the block (`Walk`).
-/

namespace MeshTrace

namespace Bytes

/-- Bytes in front only move the place of a byte. -/
theorem byte?_append_right (before rest : List UInt8) (offset : Nat) :
    byte? (before ++ rest) (before.length + offset) = byte? rest offset := by
  unfold byte?
  rw [List.getElem?_append_right (Nat.le_add_right _ _), Nat.add_sub_cancel_left]

/-- Bytes in front only move the place of a piece. -/
theorem slice?_append_right (before rest : List UInt8) (offset count : Nat) :
    slice? (before ++ rest) (before.length + offset) count = slice? rest offset count := by
  have hdrop : (before ++ rest).drop (before.length + offset) = rest.drop offset := by
    rw [List.drop_append, List.drop_of_length_le (Nat.le_add_right _ _), List.nil_append,
      Nat.add_sub_cancel_left]
  simp only [slice?, List.length_append, Nat.add_assoc, Nat.add_le_add_iff_left, hdrop]

end Bytes

namespace Header

/-- The same step once `count` bytes were put in front. -/
def Step.behind (count : Nat) : Step → Step
  | .next offset => .next (count + offset)
  | .unreadable => .unreadable
  | .tracing => .tracing

/-- Bytes in front only move where a value ends. -/
theorem skipValue_append (before rest : List UInt8) (offset : Nat) :
    skipValue (before ++ rest) (before.length + offset) =
      (skipValue rest offset).behind before.length := by
  unfold skipValue
  rw [Nat.add_assoc, Bytes.byte?_append_right]
  split
  · rfl
  · simp only [Step.behind, Step.next.injEq]
    omega

/-- **A step looks at no byte in front of its field.** -/
theorem step_append (before rest : List UInt8) (cursor : Option UInt8) (offset : Nat) :
    step (before ++ rest) cursor (before.length + offset) =
      ((step rest cursor offset).1.behind before.length, (step rest cursor offset).2) := by
  have hspells : ∀ lead nameLength,
      spellsTracingName? (before ++ rest) (before.length + offset) lead nameLength =
        spellsTracingName? rest offset lead nameLength := by
    intro lead nameLength
    unfold spellsTracingName?
    rw [Nat.add_assoc, Bytes.slice?_append_right]
  unfold step
  rw [Bytes.byte?_append_right, Nat.add_assoc, Bytes.byte?_append_right]
  simp only [hspells, Nat.add_assoc, skipValue_append]
  cases Bytes.byte? rest offset with
  | none => rfl
  | some lead =>
      dsimp only
      cases Representation.ofLead lead with
      | indexed | sizeUpdate => rfl
      | newName =>
          dsimp only
          cases Bytes.byte? rest (offset + 1) with
          | none => rfl
          | some nameLength =>
              dsimp only
              cases spellsTracingName? rest offset lead (lengthOf nameLength) with
              | none => rfl
              | some spells => cases spells <;> rfl
      | indexedName =>
          dsimp only
          split <;> rfl

end Header

namespace Field

/-- Whether a field is the tracing header to a peer that has it at `cursor` in its table. -/
def isTracing (cursor : Option UInt8) : Field → Bool
  | newName lead _ name .. => Header.entersTable lead && name == Header.tracingName
  | indexedName lead .. => Header.entersTable lead && cursor == some (Header.indexOf lead)
  | indexed _ | sizeUpdate _ => false

/-- The cursor once a field is gone by that is not the tracing header. -/
def passed (cursor : Option UInt8) : Field → Option UInt8
  | newName .. => cursor.map Header.bump
  | indexed _ | sizeUpdate _ | indexedName .. => cursor

end Field

namespace Header

/-- Of a field with a new name, the name is compared, and only if the field enters the table. -/
theorem spellsTracingName?_encode {lead nameLength : UInt8} {name : List UInt8}
    (h : lengthOf nameLength = name.length) (behind : List UInt8) :
    spellsTracingName? (lead :: nameLength :: (name ++ behind)) 0 lead (lengthOf nameLength) =
      some (entersTable lead && name == tracingName) := by
  unfold spellsTracingName?
  split
  · rename_i hcompared
    have hslice : Bytes.slice? (lead :: nameLength :: (name ++ behind)) (0 + 2) tracingNameSize =
        some name := by
      rw [← hcompared.1, h]
      refine Bytes.slice?_eq_some_iff.mpr ⟨?_, by simp⟩
      simp only [List.length_cons, List.length_append]
      omega
    rw [hslice, hcompared.2]
    rfl
  · rename_i hcompared
    have hother : (entersTable lead && name == tracingName) = false := by
      rw [Bool.eq_false_iff]
      intro hsame
      rw [Bool.and_eq_true, beq_iff_eq] at hsame
      exact hcompared ⟨by rw [h, hsame.2]; rfl, hsame.1⟩
    rw [hother]

/-- **A complete field is read without what follows it.** -/
theorem step_encode {field : Field} (h : field.WellFormed) (behind : List UInt8)
    (cursor : Option UInt8) :
    step (field.encode ++ behind) cursor 0 =
      if field.isTracing cursor then (.tracing, cursor)
      else (.next field.encode.length, field.passed cursor) := by
  obtain ⟨hlead, hlengths⟩ := h
  cases field with
  | indexed lead | sizeUpdate lead =>
      have hlayout : Representation.ofLead lead = _ := hlead
      simp only [Field.encode, step, Bytes.byte?, List.cons_append, List.getElem?_cons_zero,
        hlayout]
      rfl
  | newName lead nameLength name valueLength value =>
      have hlayout : Representation.ofLead lead = .newName := hlead
      obtain ⟨hname, hvalue⟩ := hlengths
      -- The value's length byte stands right behind the name.
      have hskip : skipValue (lead :: nameLength :: (name ++ valueLength :: (value ++ behind)))
          (0 + 1 + lengthOf nameLength) =
            .next (lead :: nameLength :: name ++ valueLength :: value).length := by
        have hindex : 0 + 1 + lengthOf nameLength + 1 =
            (lead :: nameLength :: name).length + 0 := by
          simp only [List.length_cons]
          omega
        have hbyte : Bytes.byte? (lead :: nameLength :: (name ++ valueLength :: (value ++ behind)))
            (0 + 1 + lengthOf nameLength + 1) = some valueLength := by
          rw [hindex]
          exact Bytes.byte?_append_right (lead :: nameLength :: name) _ 0
        rw [skipValue, hbyte]
        simp only [hvalue, hname, List.length_append, List.length_cons, List.cons_append,
          Step.next.injEq]
        omega
      simp only [Field.encode, step, Bytes.byte?, List.cons_append, List.append_assoc,
        List.getElem?_cons_zero, List.getElem?_cons_succ, hlayout,
        spellsTracingName?_encode hname, Field.isTracing]
      by_cases hsame : (entersTable lead && name == tracingName) = true
      · simp only [hsame, if_true]
      · simp only [hsame, hskip]
        rfl
  | indexedName lead valueLength value =>
      have hlayout : Representation.ofLead lead = .indexedName := hlead
      have hskip : skipValue (lead :: valueLength :: (value ++ behind)) 0 =
          .next (lead :: valueLength :: value).length := by
        simp only [skipValue, Bytes.byte?, List.getElem?_cons_succ, List.getElem?_cons_zero,
          hlengths, List.length_cons, Step.next.injEq]
        omega
      simp only [Field.encode, step, Bytes.byte?, List.cons_append, List.getElem?_cons_zero,
        hlayout, Field.isTracing, Bool.and_eq_true, beq_iff_eq, hskip]
      rfl

/-- At a well-formed field, whatever stands around it, a scan finds the tracing header or goes on
behind the field. -/
theorem step_encode_append {field : Field} (h : field.WellFormed) (before behind : List UInt8)
    (cursor : Option UInt8) :
    step (before ++ (field.encode ++ behind)) cursor before.length =
      if field.isTracing cursor then (.tracing, cursor)
      else (.next (before ++ field.encode).length, field.passed cursor) := by
  have hstep := step_append before (field.encode ++ behind) cursor 0
  rw [Nat.add_zero, step_encode h] at hstep
  rw [hstep, List.length_append]
  split <;> rfl

/-- What becomes of a scan of complete fields. -/
inductive Walk where
  /-- It ends among them. -/
  | ended (outcome : Outcome) (cursor : Option UInt8)
  /-- It gets through them, and may examine `left` more fields. -/
  | through (left : Nat) (cursor : Option UInt8)
deriving DecidableEq

/-- Scans complete fields, the first of which starts at `offset`. -/
def walk : List Field → (budget : Nat) → (cursor : Option UInt8) → (offset : Nat) → Walk
  | [], budget, cursor, _ => .through budget cursor
  | _ :: _, 0, cursor, offset => .ended (.exhausted offset) cursor
  | field :: rest, budget + 1, cursor, offset =>
    if field.isTracing cursor then .ended (.found offset) cursor
    else walk rest budget (field.passed cursor) (offset + field.encode.length)

/-- **A block is scanned field by field.**  A scan of a block of complete fields, up to its
end, ends among them or goes on with what follows them. -/
theorem fields_encodeAll {block : List Field} (h : ∀ field ∈ block, field.WellFormed)
    (before behind : List UInt8) (budget : Nat) (cursor : Option UInt8) :
    let bytes := before ++ (Field.encodeAll block ++ behind)
    let frameEnd := before.length + (Field.encodeAll block).length
    fields bytes frameEnd budget cursor before.length =
      match walk block budget cursor before.length with
      | .ended outcome cursor => (outcome, cursor)
      | .through left cursor => fields bytes frameEnd left cursor frameEnd := by
  intro bytes frameEnd
  -- A field that was gone by joins the bytes in front, so all bytes and their end stay put.
  induction block generalizing before budget cursor with
  | nil => rfl
  | cons field rest ih =>
      obtain ⟨hfield, hrest⟩ := List.forall_mem_cons.mp h
      cases budget with
      | zero => rfl
      | succ budget =>
          have hbytes : bytes = before ++ (field.encode ++ (Field.encodeAll rest ++ behind)) := by
            simp [bytes, Field.encodeAll]
          have hend : frameEnd =
              (before ++ field.encode).length + (Field.encodeAll rest).length := by
            simp [frameEnd, Field.encodeAll, Nat.add_assoc]
          have hrest := ih hrest (before ++ field.encode) budget (field.passed cursor)
          rw [List.append_assoc, ← hbytes, ← hend] at hrest
          have hinside : ¬ before.length > frameEnd := by omega
          have hstep := step_encode_append hfield before (Field.encodeAll rest ++ behind) cursor
          rw [← hbytes] at hstep
          rw [fields, if_neg hinside, hstep, walk]
          by_cases htracing : field.isTracing cursor
          · simp only [htracing, if_true]
          · simp only [htracing, Bool.false_eq_true, if_false, List.length_append]
            rwa [List.length_append] at hrest

end Header

end MeshTrace
