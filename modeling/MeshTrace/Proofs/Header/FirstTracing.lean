import MeshTrace.Proofs.Header.FrameEnd

/-!
# The first tracing field is found

Whether a field of a block is the tracing header to a peer depends on the names in front of
it: each moves the peer's cursor on (`running`), and a table index is compared with the cursor
as it then is (`tracingAt`).  A scan of the block stops at the first tracing field if that is
one of those that it may examine (`walk_of_isFirstTracing`), and otherwise goes by all that it
may (`walk_of_untraced`).

So the first pass reports exactly where that field starts, or where it ran out, and both
passes together find nothing else in the frame (`Maps.first_tracing_field_found`).
-/

namespace MeshTrace

/-- Whether the name of a field is spelled out. -/
def Field.isNewName : Field → Bool
  | .newName .. => true
  | .indexed _ | .sizeUpdate _ | .indexedName .. => false

namespace Header

/-! ### The running cursor -/

/-- The number of names that a block spells out. -/
def newNames (block : List Field) : Nat :=
  block.countP Field.isNewName

/-- A cursor moves on by one and stops at 255. -/
theorem toNat_bump (cursor : UInt8) : (bump cursor).toNat = min 255 (cursor.toNat + 1) := by
  have hcursor := cursor.toNat_lt
  unfold bump
  split
  · rename_i hlast
    rw [hlast]
    rfl
  · rename_i hsmall
    have hne : cursor.toNat ≠ 255 := fun heq => hsmall (UInt8.toNat_inj.mp heq)
    rw [UInt8.toNat_add, UInt8.toNat_one]
    omega

/-- The cursor behind the fields `passed`: one further for each new name, up to the largest
byte.  A peer without a cursor has none there either. -/
def running (cursor : Option UInt8) (passed : List Field) : Option UInt8 :=
  cursor.map fun place => UInt8.ofNat (min 255 (place.toNat + newNames passed))

@[simp] theorem running_nil (cursor : Option UInt8) : running cursor [] = cursor := by
  cases cursor with
  | none => rfl
  | some place =>
      have hplace := place.toNat_lt
      have hnames : newNames [] = 0 := rfl
      refine congrArg some (UInt8.toNat_inj.mp ?_)
      rw [hnames, UInt8.toNat_ofNat']
      omega

/-- The cursor behind a block is moved by its first field first. -/
theorem running_cons (cursor : Option UInt8) (field : Field) (rest : List Field) :
    running cursor (field :: rest) = running (field.passed cursor) rest := by
  cases field with
  | newName lead nameLength name valueLength value =>
      have hnames : newNames (.newName lead nameLength name valueLength value :: rest) =
          newNames rest + 1 := List.countP_cons_of_pos rfl
      cases cursor with
      | none => rfl
      | some place =>
          refine congrArg some (UInt8.toNat_inj.mp ?_)
          dsimp only
          rw [hnames, toNat_bump, UInt8.toNat_ofNat', UInt8.toNat_ofNat']
          omega
  | indexed lead | sizeUpdate lead | indexedName lead valueLength value => rfl

/-- A cursor that goes by a block counts its new names. -/
theorem foldl_passed_eq_running (cursor : Option UInt8) (block : List Field) :
    block.foldl Field.passed cursor = running cursor block := by
  induction block generalizing cursor with
  | nil => exact (running_nil cursor).symm
  | cons field rest ih => rw [List.foldl_cons, ih, running_cons]

/-! ### The first tracing field of a block -/

/-- Whether the field at `place` is the tracing header to a peer whose cursor was `cursor` in
front of the block. -/
def tracingAt (cursor : Option UInt8) (block : List Field) (place : Nat) : Bool :=
  block[place]?.any fun field => field.isTracing (running cursor (block.take place))

/-- The field at `place` is the tracing header, and none in front of it is. -/
structure IsFirstTracing (cursor : Option UInt8) (block : List Field) (place : Nat) : Prop where
  tracing : tracingAt cursor block place
  others : ∀ earlier < place, tracingAt cursor block earlier = false

/-- Where the field at `place` starts in the frame of the block. -/
def startOf (block : List Field) (place : Nat) : Nat :=
  Frame.headerSize + (Field.encodeAll (block.take place)).length

section

variable {cursor : Option UInt8} {field : Field} {block rest : List Field} {place budget : Nat}

/-- The first field is compared with the cursor that the scan starts with. -/
@[simp] theorem tracingAt_cons_zero :
    tracingAt cursor (field :: rest) 0 = field.isTracing cursor := by
  simp [tracingAt]

/-- Behind a field the peer's cursor is the one with which the field was gone by. -/
@[simp] theorem tracingAt_cons_succ :
    tracingAt cursor (field :: rest) (place + 1) =
      tracingAt (field.passed cursor) rest place := by
  simp [tracingAt, running_cons]

/-- Behind a field that was passed, the first tracing field is one place nearer. -/
theorem IsFirstTracing.tail (h : IsFirstTracing cursor (field :: rest) (place + 1)) :
    IsFirstTracing (field.passed cursor) rest place where
  tracing := by simpa using h.tracing
  others earlier hearlier := by simpa using h.others (earlier + 1) (Nat.succ_lt_succ hearlier)

/-- Among the first fields there is a first tracing one, or none of them is. -/
theorem exists_isFirstTracing_or (cursor : Option UInt8) (block : List Field) (budget : Nat) :
    (∃ place < budget, IsFirstTracing cursor block place) ∨
      ∀ place < budget, tracingAt cursor block place = false := by
  induction budget with
  | zero => exact Or.inr fun place hplace => absurd hplace (Nat.not_lt_zero _)
  | succ budget ih =>
      rcases ih with ⟨place, hplace, hfirst⟩ | hnone
      · exact Or.inl ⟨place, Nat.lt_succ_of_lt hplace, hfirst⟩
      · cases hlast : tracingAt cursor block budget with
        | true => exact Or.inl ⟨budget, Nat.lt_succ_self _, hlast, hnone⟩
        | false =>
            refine Or.inr fun place hplace => ?_
            rcases Nat.lt_succ_iff_lt_or_eq.mp hplace with hearlier | rfl
            · exact hnone place hearlier
            · exact hlast

/-- **A scan stops at the first tracing field** if it may examine it. -/
theorem walk_of_isFirstTracing (h : IsFirstTracing cursor block place) (hbudget : place < budget)
    (offset : Nat) :
    walk block budget cursor offset =
      .ended (.found (offset + (Field.encodeAll (block.take place)).length))
        (running cursor (block.take place)) := by
  induction block generalizing place budget cursor offset with
  | nil => simpa [tracingAt] using h.tracing
  | cons field rest ih =>
      obtain ⟨budget, rfl⟩ := Nat.exists_eq_add_one_of_ne_zero (Nat.ne_zero_of_lt hbudget)
      cases place with
      | zero =>
          have htracing : field.isTracing cursor := by simpa using h.tracing
          simp [walk, htracing, Field.encodeAll]
      | succ place =>
          have hother : field.isTracing cursor = false := by
            simpa using h.others 0 (Nat.succ_pos _)
          rw [walk, hother, if_neg Bool.false_ne_true, ih h.tail (Nat.lt_of_succ_lt_succ hbudget),
            List.take_succ_cons, running_cons]
          simp [Field.encodeAll, Nat.add_assoc]

/-- **A scan that may not examine a tracing field** runs out or gets through the block. -/
theorem walk_of_untraced (h : ∀ place < budget, tracingAt cursor block place = false)
    (offset : Nat) :
    walk block budget cursor offset =
      if budget < block.length then
        .ended (.exhausted (offset + (Field.encodeAll (block.take budget)).length))
          (running cursor (block.take budget))
      else .through (budget - block.length) (running cursor block) := by
  induction block generalizing budget cursor offset with
  | nil => simp [walk]
  | cons field rest ih =>
      cases budget with
      | zero => simp [walk, Field.encodeAll]
      | succ budget =>
          have hother : field.isTracing cursor = false := by simpa using h 0 (Nat.succ_pos _)
          have hrest : ∀ place < budget, tracingAt (field.passed cursor) rest place = false :=
            fun place hplace => by simpa using h (place + 1) (Nat.succ_lt_succ hplace)
          rw [walk, hother, if_neg Bool.false_ne_true, ih hrest, List.take_succ_cons,
            List.length_cons, running_cons, running_cons]
          simp [Field.encodeAll, Nat.add_assoc]

end

/-! ### The frame of a block -/

section

variable {cursor : Option UInt8} {block : List Field} {flags : List UInt8} {place budget : Nat}

theorem startOf_of_length_le (h : block.length ≤ place) :
    startOf block place = Frame.headerSize + (Field.encodeAll block).length := by
  rw [startOf, List.take_of_length_le h]

/-- No field starts behind the end of the frame. -/
theorem startOf_le (block : List Field) (place : Nat) :
    startOf block place ≤ Frame.headerSize + (Field.encodeAll block).length := by
  have hsplit : (Field.encodeAll block).length =
      (Field.encodeAll (block.take place)).length +
        (Field.encodeAll (block.drop place)).length := by
    conv_lhs => rw [← List.take_append_drop place block]
    simp only [Field.encodeAll, List.flatMap_append, List.length_append]
  rw [startOf, hsplit]
  omega

variable (h : ∀ field ∈ block, field.WellFormed)
  (hlength : (Field.encodeAll block).length ≤ Frame.maxLength) (hflags : flags.length = 5)
  (rest : List UInt8)

include hlength

/-- All places in a frame fit where they are reported. -/
theorem toNat_ofNat_of_le {offset : Nat}
    (hoffset : offset ≤ Frame.headerSize + (Field.encodeAll block).length) :
    (UInt32.ofNat offset).toNat = offset := by
  apply UInt32.toNat_ofNat_of_lt'
  unfold Frame.maxLength at hlength
  unfold Frame.headerSize at hoffset
  unfold UInt32.size
  omega

/-- The second pass goes on in a frame whose length fits its argument slot. -/
theorem searchBudget_headersFrame_append :
    searchBudget (headersFrame flags block ++ rest) =
      if (Field.encodeAll block).length ≤ maxOffset.toNat then 2 * fieldsPerPass
      else fieldsPerPass := by
  simp only [searchBudget, firstWord?_headersFrame hlength, UInt32.le_iff_toNat_le,
    Frame.lengthOf_word _ hlength]
  rfl

include h hflags

/-- The first pass finds the first tracing field, if that is one of the fields it examines. -/
theorem locate_of_isFirstTracing (hfirst : IsFirstTracing cursor block place)
    (hplace : place < fieldsPerPass) :
    locate (headersFrame flags block ++ rest) cursor =
      (.found (UInt32.ofNat (startOf block place)), running cursor (block.take place)) := by
  rw [locate_eq (firstWord?_headersFrame hlength rest), Frame.lengthOf_word _ hlength,
    ← length_headersFrame hflags, fields_headersFrame h hflags,
    walk_of_isFirstTracing hfirst hplace]
  rfl

/-- Without one among them, a first pass that uses up its fields hands on where the next field
starts. -/
theorem locate_of_untraced (hnone : ∀ place < fieldsPerPass, tracingAt cursor block place = false)
    (hmany : fieldsPerPass ≤ block.length) :
    locate (headersFrame flags block ++ rest) cursor =
      (.exhausted ⟨UInt32.ofNat (startOf block fieldsPerPass),
          UInt32.ofNat (Field.encodeAll block).length⟩,
        running cursor (block.take fieldsPerPass)) := by
  have hword : Frame.lengthOf (Frame.word Frame.headersType (Field.encodeAll block).length) =
      UInt32.ofNat (Field.encodeAll block).length := by
    apply UInt32.toNat_inj.mp
    rw [Frame.lengthOf_word _ hlength, toNat_ofNat_of_le hlength (Nat.le_add_left _ _)]
  rw [locate_eq (firstWord?_headersFrame hlength rest), Frame.lengthOf_word _ hlength,
    ← length_headersFrame hflags, fields_headersFrame h hflags, walk_of_untraced hnone, hword]
  by_cases hmore : fieldsPerPass < block.length
  · rw [if_pos hmore]
    rfl
  · have hall : block.length ≤ fieldsPerPass := Nat.not_lt.mp hmore
    rw [if_neg hmore, Nat.sub_eq_zero_of_le hmany, startOf_of_length_le hall,
      List.take_of_length_le hall, ← length_headersFrame hflags]
    rfl

/-- A scan of `budget` fields finds the first tracing field, if it gets there. -/
theorem onePass_of_isFirstTracing (hfirst : IsFirstTracing cursor block place)
    (hplace : place < budget) :
    onePass budget (headersFrame flags block ++ rest) cursor =
      (.found (UInt32.ofNat (startOf block place)), running cursor (block.take place)) := by
  rw [onePass_headersFrame h hlength hflags, walk_of_isFirstTracing hfirst hplace]
  rfl

/-- Without a tracing field that it may examine, a scan can find one only behind the frame. -/
theorem onePass_of_untraced (hnone : ∀ place < budget, tracingAt cursor block place = false) :
    (onePass budget (headersFrame flags block ++ rest) cursor).1 = .pass ∨
      (onePass budget (headersFrame flags block ++ rest) cursor).1 =
        .found (UInt32.ofNat (headersFrame flags block).length) := by
  rw [onePass_headersFrame h hlength hflags, walk_of_untraced hnone]
  split
  · exact Or.inl rfl
  · cases budget - block.length with
    | zero => exact Or.inl rfl
    | succ left =>
        rw [walked]
        split
        · exact Or.inr rfl
        · exact Or.inl rfl

/-- **What a scan finds in the frame** is its first tracing field. -/
theorem isFirstTracing_of_onePass {offset : UInt32}
    (hfound : (onePass budget (headersFrame flags block ++ rest) cursor).1 = .found offset)
    (hinside : offset.toNat < (headersFrame flags block).length) :
    ∃ place < budget, IsFirstTracing cursor block place ∧ offset.toNat = startOf block place := by
  rcases exists_isFirstTracing_or cursor block budget with ⟨place, hplace, hfirst⟩ | hnone
  · rw [onePass_of_isFirstTracing h hlength hflags rest hfirst hplace] at hfound
    obtain rfl := Scan.found.inj hfound
    exact ⟨place, hplace, hfirst, toNat_ofNat_of_le hlength (startOf_le block place)⟩
  · have hend : (headersFrame flags block).length = _ := length_headersFrame hflags
    rcases onePass_of_untraced h hlength hflags rest hnone with hpass | hbehind
    · rw [hpass] at hfound
      cases hfound
    · rw [hbehind] at hfound
      obtain rfl := Scan.found.inj hfound
      rw [toNat_ofNat_of_le hlength (Nat.le_of_eq hend)] at hinside
      exact absurd hinside (Nat.lt_irrefl _)

end

/-- What a search ends with that examines the first `budget` fields of a block and finds
exactly the first tracing one among them; `cursor` is what the peer started with. -/
structure FindsFirst (ended : Scan × Maps) (peer : UInt32) (cursor : Option UInt8)
    (block : List Field) (budget : Nat) : Prop where
  /-- The first tracing field is found where it starts, and the peer's cursor is the one
  behind the fields in front of it. -/
  found : ∀ place < budget, IsFirstTracing cursor block place →
    ∃ offset, ended.1 = .found offset ∧ offset.toNat = startOf block place ∧
      ended.2.cursors.get? peer = running cursor (block.take place)
  /-- Nothing else is found in the frame. -/
  only : ∀ offset, ended.1 = .found offset →
    offset.toNat < Frame.headerSize + (Field.encodeAll block).length →
    ∃ place < budget, IsFirstTracing cursor block place ∧ offset.toNat = startOf block place

end Header

namespace Maps

open Header

/-- **Exactly the first tracing field is found.**  Let a message start with a frame of complete
header fields, and go on in any way.  The first pass finds the first tracing field of the
frame if that is among those that it examines; of a frame with as many fields and no tracing
one among them, it leaves the place and the length behind for the second pass.  Both passes
together find the first tracing field among twice as many, in a frame whose length fits the
argument slot. -/
theorem first_tracing_field_found (maps : Maps) (peer : UInt32) {block : List Field}
    {flags : List UInt8} (hblock : ∀ field ∈ block, field.WellFormed)
    (hlength : (Field.encodeAll block).length ≤ Frame.maxLength) (hflags : flags.length = 5)
    (rest : List UInt8) :
    let msg := headersFrame flags block ++ rest
    let cursor := maps.cursors.get? peer
    let first := maps.locate peer msg
    FindsFirst first peer cursor block fieldsPerPass ∧
      (fieldsPerPass ≤ block.length →
        (∀ place < fieldsPerPass, tracingAt cursor block place = false) →
        ∃ left, first.1 = .exhausted left ∧ left.offset.toNat = startOf block fieldsPerPass ∧
          left.frameLength.toNat = (Field.encodeAll block).length ∧
          first.2.cursors.get? peer = running cursor (block.take fieldsPerPass)) ∧
      (maps.args.offset.present → maps.args.frameLength.present →
        FindsFirst (maps.search peer msg) peer cursor block
          (if (Field.encodeAll block).length ≤ maxOffset.toNat then 2 * fieldsPerPass
            else fieldsPerPass)) := by
  intro msg cursor first
  have hframe : (headersFrame flags block).length = _ := length_headersFrame hflags
  have hresult : first.1 = (Header.locate msg cursor).1 := withCursor_fst _ _ _
  have hcursor : first.2.cursors.get? peer = (Header.locate msg cursor).2 :=
    get?_withCursor (isSome_locate msg) maps peer
  refine ⟨⟨fun place hplace hfirst => ?_, fun offset hfound hinside => ?_⟩,
    fun hmany hnone => ?_, fun hoffset hargs => ?_⟩
  · have hlocate := locate_of_isFirstTracing hblock hlength hflags rest hfirst hplace
    rw [hlocate] at hresult hcursor
    exact ⟨_, hresult, toNat_ofNat_of_le hlength (startOf_le block place), hcursor⟩
  · have hended : onePass (fieldsPerPass + 0) msg cursor = Header.locate msg cursor := by
      refine onePass_of_locate_ne_exhausted 0 fun left hleft => ?_
      rw [hresult, hleft] at hfound
      cases hfound
    rw [hresult, ← hended] at hfound
    rw [← hframe] at hinside
    exact isFirstTracing_of_onePass hblock hlength hflags rest hfound hinside
  · have hlocate := locate_of_untraced hblock hlength hflags rest hnone hmany
    rw [hlocate] at hresult hcursor
    exact ⟨_, hresult, toNat_ofNat_of_le hlength (startOf_le block _),
      toNat_ofNat_of_le hlength (Nat.le_add_left _ _), hcursor⟩
  · have hends := search_result_cursor hoffset hargs peer msg
    rw [searchBudget_headersFrame_append hlength] at hends
    have hsearch := congrArg Prod.fst hends
    refine ⟨fun place hplace hfirst => ?_, fun offset hfound hinside => ?_⟩
    · rw [onePass_of_isFirstTracing hblock hlength hflags rest hfirst hplace] at hends
      exact ⟨_, congrArg Prod.fst hends, toNat_ofNat_of_le hlength (startOf_le block place),
        congrArg Prod.snd hends⟩
    · rw [← hframe] at hinside
      exact isFirstTracing_of_onePass hblock hlength hflags rest (hsearch.symm.trans hfound)
        hinside

/-- A block in which the name of the fourth field is out of date, and that of the fifth is the
tracing header's once the new name in front of it is counted. -/
def countedBlock : List Field :=
  [.indexed 0x83, .sizeUpdate 0x3f, .literal [1, 2] [3], .reference 62 [4, 5],
    .reference 63 [6, 7, 8]]

/-- The tracing header is found in the fifth field, behind a name that moved the cursor on. -/
theorem first_tracing_field_found_counted :
    let maps : Maps := { cursors := Table.empty.put 5 62 }
    let msg := headersFrame [4, 0, 0, 0, 1] countedBlock ++ dataFrame
    (maps.locate 5 msg).1 = .found 21 ∧ (maps.locate 5 msg).2.cursors.get? 5 = some 63 ∧
      (maps.search 5 msg).1 = .found 21 := by
  dsimp only
  obtain ⟨hlocate, -, hsearch⟩ :=
    @first_tracing_field_found { cursors := Table.empty.put 5 62 } 5 countedBlock
      [4, 0, 0, 0, 1] (by decide) (by decide) rfl dataFrame
  have hfirst : IsFirstTracing ((Table.empty.put 5 62 : Table UInt32 UInt8).get? 5)
      countedBlock 4 := ⟨by decide, by decide⟩
  have hcounted : running ((Table.empty.put 5 62 : Table UInt32 UInt8).get? 5)
      (countedBlock.take 4) = some 63 := by decide
  have hstart : startOf countedBlock 4 = (21 : UInt32).toNat := by decide
  obtain ⟨offset, hfound, hplace, hcursor⟩ := hlocate.found 4 (by decide) hfirst
  obtain ⟨offset', hfound', hplace', -⟩ := (hsearch rfl rfl).found 4 (by decide) hfirst
  obtain rfl : offset = 21 := UInt32.toNat_inj.mp (hplace.trans hstart)
  obtain rfl : offset' = 21 := UInt32.toNat_inj.mp (hplace'.trans hstart)
  exact ⟨hfound, hcursor.trans hcounted, hfound'⟩

end Maps

end MeshTrace
