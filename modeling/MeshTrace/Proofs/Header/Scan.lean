import MeshTrace.Header.Scan
import MeshTrace.Propagation

/-!
# What a scan finds, and where

A scan moves on by at most `maxFieldSize` bytes a field, so the place it stops at is
bounded by where it started and by the fields it examined (`fields_withinReach`).
Where it finds the tracing header, the field enters the dynamic table and has the
name spelled out or named by the peer's cursor (`step_tracing`, `fields_found`).  In
both forms the field's value starts where a propagation looks for it
(`IsTracing.valueStart?_eq`).
-/

namespace MeshTrace.Header

/-- A fact about all bytes is one about 256 numbers. -/
theorem forall_byte {p : UInt8 → Prop} (h : ∀ n : Fin 256, p (UInt8.ofNat n)) (byte : UInt8) :
    p byte := by
  have hbyte := h ⟨byte.toNat, byte.toNat_lt⟩
  rwa [UInt8.ofNat_toNat] at hbyte

/-- A length byte counts 127 at most. -/
theorem lengthOf_le (lengthByte : UInt8) : lengthOf lengthByte ≤ 127 := by
  unfold lengthOf
  rw [UInt8.toNat_and]
  exact Nat.and_le_right

/-- A field that enters the table spells its name out exactly if its leading byte has
no index. -/
theorem namesItself_iff (lead : UInt8) :
    entersTable lead → (Propagation.namesItself lead ↔ Representation.ofLead lead = .newName) := by
  revert lead
  apply forall_byte
  decide +kernel

/-- The size of the largest field: a leading byte and two length bytes with a name
and a value of 127 bytes each. -/
def maxFieldSize : Nat := 257

/-- Where the value of the field at `offset` starts, by the field's own leading and
length bytes.  A field without a value has none. -/
def valueStart? (bytes : List UInt8) (offset : Nat) : Option Nat :=
  (Bytes.byte? bytes offset).bind fun lead =>
    match Representation.ofLead lead with
    | .indexed | .sizeUpdate => none
    | .newName => (Bytes.byte? bytes (offset + 1)).map fun lengthByte =>
        offset + 2 + lengthOf lengthByte + 1
    | .indexedName => some (offset + 2)

variable {bytes : List UInt8} {frameEnd budget offset : Nat} {cursor after : Option UInt8}

/-- Skipping a value leads behind at most 127 bytes of it. -/
theorem skipValue_next {before next : Nat} (h : skipValue bytes before = .next next) :
    before + 2 ≤ next ∧ next ≤ before + 129 := by
  unfold skipValue at h
  split at h
  · cases h
  · rename_i lengthByte _
    have hlength := lengthOf_le lengthByte
    cases h
    omega

/-- Skipping a value never finds the header. -/
theorem skipValue_ne_tracing (bytes : List UInt8) (before : Nat) :
    skipValue bytes before ≠ .tracing := by
  unfold skipValue
  split <;> intro h <;> cases h

/-- The field behind another one starts behind it, no farther than its size. -/
theorem step_next {next : Nat} (h : step bytes cursor offset = (.next next, after)) :
    offset < next ∧ next ≤ offset + maxFieldSize := by
  unfold step at h
  split at h
  · cases h
  · split at h
    · cases h
      unfold maxFieldSize
      omega
    · cases h
      unfold maxFieldSize
      omega
    · split at h
      · cases h
      · rename_i lengthByte _
        split at h
        · cases h
        · cases h
        · have hname := lengthOf_le lengthByte
          have hskip := skipValue_next (Prod.mk.inj h).1
          unfold maxFieldSize
          omega
    · split at h
      · cases h
      · have hskip := skipValue_next (Prod.mk.inj h).1
        unfold maxFieldSize
        omega

/-- What makes the field at `offset` the tracing header: it enters the table, and
spells the header's name or takes it from where the cursor is. -/
structure IsTracing (bytes : List UInt8) (cursor : Option UInt8) (offset : Nat)
    (lead : UInt8) : Prop where
  leading : Bytes.byte? bytes offset = some lead
  enters : entersTable lead
  named :
    (Representation.ofLead lead = .newName ∧
      (∃ lengthByte, Bytes.byte? bytes (offset + 1) = some lengthByte ∧
        lengthOf lengthByte = tracingNameSize) ∧
      Bytes.slice? bytes (offset + 2) tracingNameSize = some tracingName) ∨
    (Representation.ofLead lead = .indexedName ∧ cursor = some (indexOf lead))

/-- A scan takes a field for the tracing header only if it is one, and leaves the
cursor where it was. -/
theorem step_tracing (h : step bytes cursor offset = (.tracing, after)) :
    after = cursor ∧ ∃ lead, IsTracing bytes cursor offset lead := by
  unfold step at h
  split at h
  · cases h
  · rename_i lead hlead
    split at h
    · cases h
    · cases h
    · rename_i hnew
      split at h
      · cases h
      · rename_i lengthByte hlength
        split at h
        · cases h
        · rename_i hspells
          cases h
          unfold spellsTracingName? at hspells
          split at hspells
          · rename_i hcompared
            refine ⟨rfl, lead, hlead, hcompared.2, Or.inl ⟨hnew, ⟨lengthByte, hlength,
              hcompared.1⟩, ?_⟩⟩
            obtain ⟨name, hname, heq⟩ := Option.map_eq_some_iff.mp hspells
            rw [hname, eq_of_beq heq]
          · cases hspells
        · exact absurd (Prod.mk.inj h).1 (skipValue_ne_tracing _ _)
    · rename_i hindexed
      split at h
      · rename_i hcursor
        cases h
        exact ⟨rfl, lead, hlead, hcursor.1, Or.inr ⟨hindexed, hcursor.2⟩⟩
      · exact absurd (Prod.mk.inj h).1 (skipValue_ne_tracing _ _)

/-- **Scan and propagation agree on the value.**  The value of the tracing header
starts where the leading byte alone says. -/
theorem IsTracing.valueStart?_eq {lead : UInt8} (h : IsTracing bytes cursor offset lead) :
    valueStart? bytes offset = some (Propagation.valueOffset offset lead) := by
  rcases h.named with ⟨hnew, ⟨lengthByte, hlength, hsize⟩, -⟩ | ⟨hindexed, -⟩
  · have hnames : Propagation.namesItself lead := (namesItself_iff lead h.enters).mpr hnew
    simp only [valueStart?, h.leading, Option.bind_some, hnew, hlength, Option.map_some, hsize,
      Propagation.valueOffset, if_pos hnames, Option.some.injEq]
    omega
  · have hnames : ¬ Propagation.namesItself lead := by
      rw [namesItself_iff lead h.enters, hindexed]
      exact nofun
    simp only [valueStart?, h.leading, Option.bind_some, hindexed, Propagation.valueOffset,
      if_neg hnames]

/-- How far a pass over `budget` fields from `offset` on can get.  A field that was
found is one of the examined fields itself. -/
def WithinReach (offset budget : Nat) : Outcome → Prop
  | .pass => True
  | .found found => found + maxFieldSize ≤ offset + maxFieldSize * budget
  | .exhausted next => next ≤ offset + maxFieldSize * budget

/-- **A pass has a bounded reach.** -/
theorem fields_withinReach (bytes : List UInt8) (frameEnd budget : Nat)
    (cursor : Option UInt8) (offset : Nat) :
    WithinReach offset budget (fields bytes frameEnd budget cursor offset).1 := by
  induction budget generalizing cursor offset with
  | zero => simp [fields, WithinReach]
  | succ budget ih =>
      rw [fields]
      split
      · trivial
      · split
        · trivial
        · simp only [WithinReach, Nat.mul_succ]
          omega
        · rename_i next cursor hstep
          have hnext := step_next hstep
          have hrest := ih cursor next
          generalize (fields bytes frameEnd budget cursor next).1 = outcome at *
          cases outcome with
          | pass => trivial
          | found found =>
              simp only [WithinReach, Nat.mul_succ] at *
              omega
          | exhausted last =>
              simp only [WithinReach, Nat.mul_succ] at *
              omega

/-- What a pass finds is the tracing header, and it starts inside the frame. -/
theorem fields_found {found : Nat}
    (h : fields bytes frameEnd budget cursor offset = (.found found, after)) :
    found ≤ frameEnd ∧ ∃ lead, IsTracing bytes after found lead := by
  induction budget generalizing cursor offset with
  | zero => cases h
  | succ budget ih =>
      rw [fields] at h
      split at h
      · cases h
      · rename_i hinside
        split at h
        · cases h
        · rename_i hstep
          cases h
          obtain ⟨rfl, htracing⟩ := step_tracing hstep
          exact ⟨by omega, htracing⟩
        · exact ih h

/-- A pass gives no cursor to a peer without one, and takes none away. -/
theorem isSome_step (bytes : List UInt8) (cursor : Option UInt8) (offset : Nat) :
    (step bytes cursor offset).2.isSome = cursor.isSome := by
  unfold step
  split
  · rfl
  · split
    · rfl
    · rfl
    · split
      · rfl
      · split
        · rfl
        · rfl
        · exact Option.isSome_map
    · split <;> rfl

/-- Examining fields gives no cursor and takes none away. -/
theorem isSome_fields (bytes : List UInt8) (frameEnd budget : Nat) (cursor : Option UInt8)
    (offset : Nat) :
    (fields bytes frameEnd budget cursor offset).2.isSome = cursor.isSome := by
  induction budget generalizing cursor offset with
  | zero => rfl
  | succ budget ih =>
      have hstep := isSome_step bytes cursor offset
      rw [fields]
      split
      · rfl
      · split
        · rename_i heq
          rwa [heq] at hstep
        · rename_i heq
          rwa [heq] at hstep
        · rename_i heq
          rw [heq] at hstep
          exact (ih _ _).trans hstep

theorem isSome_scan (bytes : List UInt8) (cursor : Option UInt8) (start : Continuation) :
    (scan bytes cursor start).2.isSome = cursor.isSome := by
  have hfields := isSome_fields bytes (Frame.headerSize + start.frameLength.toNat) fieldsPerPass
    cursor start.offset.toNat
  unfold scan
  split <;> rename_i heq <;> rwa [heq] at hfields

theorem isSome_locate (bytes : List UInt8) (cursor : Option UInt8) :
    (locate bytes cursor).2.isSome = cursor.isSome := by
  unfold locate
  split
  · rfl
  · exact isSome_scan _ _ _

theorem isSome_resume (bytes : List UInt8) (cursor : Option UInt8)
    (start : Option Continuation) :
    (resume bytes cursor start).2.isSome = cursor.isSome := by
  unfold resume
  split
  · rfl
  · rename_i start
    have hscan := isSome_scan bytes cursor start
    split
    · rename_i heq
      rwa [heq] at hscan
    · exact hscan

/-- A header that one pass finds starts inside the frame, at an offset that a word
can hold. -/
theorem scan_found {start : Continuation} {found : UInt32}
    (h : scan bytes cursor start = (.found found, after))
    (hstart : start.offset.toNat + maxFieldSize * fieldsPerPass < UInt32.size) :
    found.toNat ≤ Frame.headerSize + start.frameLength.toNat ∧
      found.toNat + maxFieldSize ≤ start.offset.toNat + maxFieldSize * fieldsPerPass ∧
      ∃ lead, IsTracing bytes after found.toNat lead := by
  have hreach := fields_withinReach bytes (Frame.headerSize + start.frameLength.toNat)
    fieldsPerPass cursor start.offset.toNat
  unfold scan at h
  split at h
  · cases h
  · rename_i place cursor hfields
    cases h
    rw [hfields] at hreach
    simp only [WithinReach] at hreach
    have hword : (UInt32.ofNat place).toNat = place := by
      apply UInt32.toNat_ofNat_of_lt'
      omega
    obtain ⟨hinside, htracing⟩ := fields_found hfields
    rw [hword]
    exact ⟨hinside, hreach, htracing⟩
  · cases h

/-- The first pass finds the header near the start of a HEADERS frame. -/
theorem locate_found {found : UInt32} (h : locate bytes cursor = (.found found, after)) :
    found.toNat ≤ maxOffset.toNat ∧ ∃ lead, IsTracing bytes after found.toNat lead := by
  unfold locate at h
  split at h
  · cases h
  · have hstart : (UInt32.ofNat Frame.headerSize).toNat = 9 := by decide
    obtain ⟨-, hreach, htracing⟩ := scan_found h (by rw [hstart]; decide)
    refine ⟨?_, htracing⟩
    have hmax : maxOffset.toNat = 2048 := by decide
    simp only [hstart, maxFieldSize, fieldsPerPass] at hreach
    omega

/-- A first pass that ran out hands on the length of the frame. -/
theorem locate_exhausted {rest : Continuation}
    (h : locate bytes cursor = (.exhausted rest, after)) :
    ∃ word, Frame.firstWord? Frame.headersType bytes = some word ∧
      rest.frameLength = Frame.lengthOf word := by
  unfold locate at h
  split at h
  · cases h
  · rename_i word hword
    refine ⟨word, hword, ?_⟩
    unfold scan at h
    split at h <;> cases h
    rfl

/-- The second pass finds the header inside the frame whose length it was handed. -/
theorem resume_found {start : Continuation} {found : UInt32}
    (h : resume bytes cursor (some start) = (.found found, after))
    (hstart : start.offset ≤ maxOffset) :
    found.toNat ≤ Frame.headerSize + start.frameLength.toNat ∧
      ∃ lead, IsTracing bytes after found.toNat lead := by
  have hbound : start.offset.toNat ≤ 2048 := UInt32.le_iff_toNat_le.mp hstart
  unfold resume at h
  dsimp only at h
  split at h
  · cases h
  · obtain ⟨hinside, -, htracing⟩ := scan_found h (by
      unfold maxFieldSize fieldsPerPass UInt32.size
      omega)
    exact ⟨hinside, htracing⟩

end MeshTrace.Header
