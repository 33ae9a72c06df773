import MeshTrace.Proofs.Header.Scan
import MeshTrace.Proofs.Maps.Cursors

/-!
# Two passes as one scan

A first pass that runs out leaves its place in the argument slots, and a second pass goes
on from there (`Maps.search`).  Together they are one scan of the header block, that
examines as many fields as both passes may and stores the peer's cursor once
(`Maps.search_eq`, `Maps.search_eq_onePass`).

The place always fits its slot, since a first pass does not get far
(`Header.locate_reach`).  The length of the frame may not fit, and then the second pass
does not start: the one scan ends with the first pass (`Header.searchBudget`).
-/

namespace MeshTrace

/-- Both passes over a message to `peer`: the first one, and the second one from where the
first ran out. -/
def Maps.search (maps : Maps) (peer : UInt32) (bytes : List UInt8) : Scan × Maps :=
  match maps.locate peer bytes with
  | (.exhausted rest, maps) => (maps.saveContinuation rest).resume peer bytes
  | ended => ended

namespace Header

/-- What a pass over a frame of this length reports. -/
def Outcome.reported (frameLength : UInt32) : Outcome → Scan
  | .pass => .pass
  | .found offset => .found (UInt32.ofNat offset)
  | .exhausted offset => .exhausted ⟨UInt32.ofNat offset, frameLength⟩

/-- What a scan reports that nothing follows: running out finds nothing. -/
def Outcome.final : Outcome → Scan
  | .found offset => .found (UInt32.ofNat offset)
  | .pass | .exhausted _ => .pass

/-- One scan of the HEADERS frame that a message starts with, over up to `budget` fields. -/
def onePass (budget : Nat) (bytes : List UInt8) (cursor : Option UInt8) : Scan × Option UInt8 :=
  match Frame.firstWord? Frame.headersType bytes with
  | none => (.pass, cursor)
  | some word =>
    let frameEnd := Frame.headerSize + (Frame.lengthOf word).toNat
    let ended := fields bytes frameEnd budget cursor Frame.headerSize
    (ended.1.final, ended.2)

variable {bytes : List UInt8} {cursor after : Option UInt8}

/-- A pass examines six fields from where it starts and, if it runs out, says where to go on. -/
theorem scan_eq (bytes : List UInt8) (cursor : Option UInt8) (start : Continuation) :
    scan bytes cursor start =
      let ended := fields bytes (Frame.headerSize + start.frameLength.toNat) fieldsPerPass cursor
        start.offset.toNat
      (ended.1.reported start.frameLength, ended.2) := by
  unfold scan
  split <;> rename_i heq <;> rw [heq] <;> rfl

/-- A later pass examines six more fields, and is the last one. -/
theorem resume_some_eq (bytes : List UInt8) (cursor : Option UInt8) (start : Continuation) :
    resume bytes cursor (some start) =
      let ended := fields bytes (Frame.headerSize + start.frameLength.toNat) fieldsPerPass cursor
        start.offset.toNat
      (ended.1.final, ended.2) := by
  rw [resume, scan_eq]
  generalize fields _ _ _ _ _ = ended
  obtain ⟨outcome, after⟩ := ended
  cases outcome <;> rfl

/-- The first pass examines the first six fields of a HEADERS frame. -/
theorem locate_eq {word : UInt32}
    (hword : Frame.firstWord? Frame.headersType bytes = some word) (cursor : Option UInt8) :
    locate bytes cursor =
      let ended := fields bytes (Frame.headerSize + (Frame.lengthOf word).toNat) fieldsPerPass
        cursor Frame.headerSize
      (ended.1.reported (Frame.lengthOf word), ended.2) := by
  have hstart : (UInt32.ofNat Frame.headerSize).toNat = Frame.headerSize := by decide
  rw [locate, hword]
  dsimp only
  rw [scan_eq, hstart]

/-- **A first pass does not get far.**  Where it ran out it can go on, and the place fits its
argument slot. -/
theorem locate_reach {rest : Continuation} (h : locate bytes cursor = (.exhausted rest, after)) :
    ∃ word, Frame.firstWord? Frame.headersType bytes = some word ∧
      rest.frameLength = Frame.lengthOf word ∧
      rest.offset.toNat ≤ Frame.headerSize + maxFieldSize * fieldsPerPass ∧
      fields bytes (Frame.headerSize + (Frame.lengthOf word).toNat) fieldsPerPass cursor
        Frame.headerSize = (.exhausted rest.offset.toNat, after) := by
  obtain ⟨word, hword, hlength⟩ := locate_exhausted h
  have hreach := fields_withinReach bytes (Frame.headerSize + (Frame.lengthOf word).toNat)
    fieldsPerPass cursor Frame.headerSize
  rw [locate_eq hword] at h
  generalize hended : fields _ _ _ _ _ = ended at h hreach
  obtain ⟨outcome, cursor⟩ := ended
  cases outcome with
  | pass | found => cases h
  | exhausted place =>
      cases h
      have hplace : (UInt32.ofNat place).toNat = place := by
        apply UInt32.toNat_ofNat_of_lt'
        simp only [WithinReach, Frame.headerSize, maxFieldSize, fieldsPerPass] at hreach
        unfold UInt32.size
        omega
      rw [hplace]
      exact ⟨word, hword, rfl, hreach, hended⟩

/-- A first pass that did not run out is a scan over any number of further fields. -/
theorem onePass_of_locate_ne_exhausted (more : Nat)
    (h : ∀ rest, (locate bytes cursor).1 ≠ .exhausted rest) :
    onePass (fieldsPerPass + more) bytes cursor = locate bytes cursor := by
  cases hword : Frame.firstWord? Frame.headersType bytes with
  | none => simp only [onePass, locate, hword]
  | some word =>
      rw [locate_eq hword] at h ⊢
      simp only [onePass, hword, fields_add]
      generalize fields _ _ _ _ _ = ended at h ⊢
      obtain ⟨outcome, after⟩ := ended
      cases outcome with
      | pass | found => rfl
      | exhausted place => exact absurd rfl (h _)

/-- A first pass that ran out, and was not resumed, is a scan over its fields. -/
theorem onePass_of_locate_exhausted {rest : Continuation}
    (h : locate bytes cursor = (.exhausted rest, after)) :
    onePass fieldsPerPass bytes cursor = (.pass, after) := by
  obtain ⟨word, hword, -, -, hfields⟩ := locate_reach h
  simp only [onePass, hword, hfields, Outcome.final]

/-- **A first pass that ran out, and was resumed, is a scan over the fields of both.** -/
theorem onePass_of_locate_resume {rest : Continuation}
    (h : locate bytes cursor = (.exhausted rest, after)) :
    onePass (fieldsPerPass + fieldsPerPass) bytes cursor = resume bytes after (some rest) := by
  obtain ⟨word, hword, hlength, -, hfields⟩ := locate_reach h
  rw [resume_some_eq, hlength]
  simp only [onePass, hword, fields_add, hfields]

/-- How many fields both passes may examine: a frame whose length does not fit its argument
slot is left to the first pass. -/
def searchBudget (bytes : List UInt8) : Nat :=
  match Frame.firstWord? Frame.headersType bytes with
  | none => fieldsPerPass + fieldsPerPass
  | some word =>
    if Frame.lengthOf word ≤ maxOffset then fieldsPerPass + fieldsPerPass else fieldsPerPass

/-- Both passes together examine no fewer fields than the first one. -/
theorem exists_searchBudget_eq (bytes : List UInt8) :
    ∃ more, searchBudget bytes = fieldsPerPass + more := by
  unfold searchBudget
  split
  · exact ⟨fieldsPerPass, rfl⟩
  · split
    · exact ⟨fieldsPerPass, rfl⟩
    · exact ⟨0, rfl⟩

/-- If a frame fits the argument slots, both passes run in full. -/
theorem searchBudget_of_le
    (h : ∀ word, Frame.firstWord? Frame.headersType bytes = some word →
      Frame.lengthOf word ≤ maxOffset) :
    searchBudget bytes = 2 * fieldsPerPass := by
  unfold searchBudget
  split
  · rfl
  · rename_i word hword
    rw [if_pos (h word hword)]
    rfl

end Header

/-- A continuation is read back from its slots unless one of its parts is too large. -/
theorem ArgSlots.load?_save_eq {slots : ArgSlots} (hoffset : slots.offset.present)
    (hlength : slots.frameLength.present) (rest : Continuation) :
    (slots.save rest).load? =
      if rest.offset ≤ Header.maxOffset ∧ rest.frameLength ≤ Header.maxOffset then some rest
      else none := by
  simp only [load?, bounded?, save, Cell.get?_set _ hoffset, Cell.get?_set _ hlength]
  by_cases hplace : rest.offset ≤ Header.maxOffset <;>
    by_cases hfits : rest.frameLength ≤ Header.maxOffset <;>
    simp [Option.filter_some, hplace, hfits]

/-- What the second pass adds to a first one that ran out. -/
theorem Header.resume_save {bytes : List UInt8} {cursor after : Option UInt8}
    {rest : Continuation} {slots : ArgSlots} (hoffset : slots.offset.present)
    (hlength : slots.frameLength.present) (h : locate bytes cursor = (.exhausted rest, after)) :
    resume bytes after (slots.save rest).load? = onePass (searchBudget bytes) bytes cursor := by
  obtain ⟨word, hword, hframe, hreach, -⟩ := locate_reach h
  have hplace : rest.offset ≤ maxOffset := by
    rw [UInt32.le_iff_toNat_le]
    exact Nat.le_trans hreach (by decide)
  rw [ArgSlots.load?_save_eq hoffset hlength]
  simp only [hplace, true_and, searchBudget, hword, ← hframe]
  split
  · exact (onePass_of_locate_resume h).symm
  · exact (onePass_of_locate_exhausted h).symm

namespace Maps

variable {maps : Maps} {peer : UInt32} {bytes : List UInt8} {rest : Continuation}

/-- Without a second pass, a search is its first pass. -/
theorem search_of_ne_exhausted (h : ∀ rest, (maps.locate peer bytes).1 ≠ .exhausted rest) :
    maps.search peer bytes = maps.locate peer bytes := by
  unfold search
  generalize maps.locate peer bytes = ended at h ⊢
  obtain ⟨result, passed⟩ := ended
  cases result with
  | pass | found => rfl
  | exhausted rest => exact absurd rfl (h rest)

/-- A first pass that ran out is resumed with its place in the slots. -/
theorem search_of_exhausted (h : (maps.locate peer bytes).1 = .exhausted rest) :
    maps.search peer bytes =
      { (maps.locate peer bytes).2 with args := maps.args.save rest }.resume peer bytes := by
  have hargs : (maps.locate peer bytes).2.args = maps.args := args_withCursor _ _ _
  unfold search
  generalize maps.locate peer bytes = ended at h hargs ⊢
  obtain ⟨result, passed⟩ := ended
  obtain rfl : result = _ := h
  have hpassed : passed.args = maps.args := hargs
  simp only [saveContinuation, hpassed]

/-- **Both passes are one scan**, but for what is left in the argument slots. -/
theorem search_eq (hoffset : maps.args.offset.present) (hlength : maps.args.frameLength.present)
    (peer : UInt32) (bytes : List UInt8) :
    let single := maps.withCursor peer (Header.onePass (Header.searchBudget bytes) bytes)
    (maps.search peer bytes).1 = single.1 ∧
      { (maps.search peer bytes).2 with args := maps.args } = single.2 := by
  intro single
  have hresult : (maps.locate peer bytes).1 =
      (Header.locate bytes (maps.cursors.get? peer)).1 := withCursor_fst _ _ _
  have hsingle : single.2.args = maps.args := args_withCursor _ _ _
  by_cases hended : ∀ rest, (maps.locate peer bytes).1 ≠ .exhausted rest
  · -- The first pass found the header or gave up, and a longer one would do the same.
    have hlocate : maps.locate peer bytes = single := by
      refine withCursor_congr ?_
      rw [hresult] at hended
      obtain ⟨more, hmore⟩ := Header.exists_searchBudget_eq bytes
      rw [hmore, Header.onePass_of_locate_ne_exhausted more hended]
    rw [search_of_ne_exhausted hended, hlocate]
    exact ⟨rfl, by rw [← hsingle]⟩
  · obtain ⟨rest, hrest⟩ := not_forall_not.mp hended
    -- The second pass runs with the cursor that the first one stored.
    let saved := maps.args.save rest
    have hpasses : (maps.locate peer bytes).2.withCursor peer
        (fun cursor => Header.resume bytes cursor saved.load?) = single := by
      rw [locate, withCursor_withCursor (Header.isSome_locate bytes)
        fun cursor => Header.isSome_resume bytes cursor saved.load?]
      refine withCursor_congr ?_
      rw [hresult] at hrest
      exact Header.resume_save hoffset hlength (Prod.ext hrest rfl)
    rw [search_of_exhausted hrest, resume, withCursor_args, hpasses]
    exact ⟨rfl, by rw [← hsingle]⟩

/-- **Two chained passes are one long one.**  Let the argument slots be there, and let the
message start with a frame whose length fits them, if it starts with a HEADERS frame at all.
Then both passes end as one scan over twice as many fields, with the same maps but for the
slots.  A first pass that runs out leaves an offset of at most 1551, and the second pass
reads back what the first one left. -/
theorem search_eq_onePass (hoffset : maps.args.offset.present)
    (hlength : maps.args.frameLength.present) (peer : UInt32) (msg : Message)
    (hshort : ∀ word, Frame.firstWord? Frame.headersType msg.addressable = some word →
      Frame.lengthOf word ≤ Header.maxOffset) :
    let single := maps.withCursor peer
      (Header.onePass (2 * Header.fieldsPerPass) msg.addressable)
    (maps.search peer msg.addressable).1 = single.1 ∧
      { (maps.search peer msg.addressable).2 with args := maps.args } = single.2 ∧
      ∀ rest passed, maps.locate peer msg.addressable = (.exhausted rest, passed) →
        rest.offset.toNat ≤ 1551 ∧ (passed.saveContinuation rest).args.load? = some rest := by
  intro single
  have hsearch := search_eq hoffset hlength peer msg.addressable
  rw [Header.searchBudget_of_le hshort] at hsearch
  refine ⟨hsearch.1, hsearch.2, fun rest passed hlocate => ?_⟩
  have hargs : passed.args = maps.args := by
    have hkept : (maps.locate peer msg.addressable).2.args = maps.args := args_withCursor _ _ _
    rwa [hlocate] at hkept
  have hresult : (Header.locate msg.addressable (maps.cursors.get? peer)).1 = .exhausted rest := by
    rw [← withCursor_fst maps peer (Header.locate msg.addressable)]
    exact congrArg Prod.fst hlocate
  obtain ⟨word, hword, hframe, hreach, -⟩ := Header.locate_reach (Prod.ext hresult rfl)
  have hfits : rest.offset ≤ Header.maxOffset :=
    UInt32.le_iff_toNat_le.mpr (Nat.le_trans hreach (by decide))
  refine ⟨hreach, ?_⟩
  rw [saveContinuation, hargs, ArgSlots.load?_save_eq hoffset hlength,
    if_pos ⟨hfits, hframe ▸ hshort word hword⟩]

/-- A message with a new name, eight indexed fields, and the tracing header behind them. -/
def tenthField : Message :=
  .ofBytes (Frame.encode Frame.headersType (Field.encodeAll
    (.literal [1, 2] [3] :: List.replicate 8 (.indexed 0x86) ++
      [.tracing [1, 2, 3, 4, 5, 6, 7, 8]])))

/-- A header in the tenth field is found by both passes as it is by a long one, and the new
name that the first pass went by has moved the cursor on. -/
theorem search_eq_onePass_tenthField :
    let maps : Maps := { cursors := Table.empty.put 5 70 }
    let passes := maps.search 5 tenthField.addressable
    passes.1 = .found 23 ∧ passes.2.cursors.get? 5 = some 71 := by
  intro maps passes
  have hshort : ∀ word, Frame.firstWord? Frame.headersType tenthField.addressable = some word →
      Frame.lengthOf word ≤ Header.maxOffset := by
    have hword : Frame.firstWord? Frame.headersType tenthField.addressable = some 0x2201 := by
      decide
    rintro word hfirst
    rw [hword, Option.some.injEq] at hfirst
    rw [← hfirst]
    decide
  obtain ⟨hresult, hmaps, -⟩ := @search_eq_onePass maps rfl rfl 5 tenthField hshort
  have hcursors := congrArg (fun maps => maps.cursors.get? 5) hmaps
  exact ⟨hresult.trans rfl, hcursors.trans rfl⟩

end Maps

end MeshTrace
