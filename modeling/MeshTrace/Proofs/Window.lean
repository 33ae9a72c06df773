import MeshTrace.Proofs.Header.DynamicTable
import MeshTrace.Thrift
import Mathlib.Data.Option.Basic

/-!
# What a narrow window costs

A program reads the first bytes of a message only.  A read that succeeds there gives the
same with more bytes in view, so a parser that finds something in a narrow window finds the
same in a wider one.  A scan stops where a read fails, and then it passes: it has gone by a
part of the fields that a scan of the wider window goes by, and no cursor is ahead of the
one that the wider window leaves (`Header.fields_of_prefix`).

So a narrower window loses a match or leaves everything as it is
(`narrower_window_only_loses`).
-/

namespace MeshTrace

/-! Reads -/

section Reads

variable {narrow wide : List UInt8}

/-- A byte in a narrow window is the same in a wider one. -/
theorem Bytes.byte?_of_prefix (h : narrow <+: wide) {offset : Nat} {byte : UInt8}
    (hread : byte? narrow offset = some byte) : byte? wide offset = some byte := by
  obtain ⟨rest, rfl⟩ := h
  have hinside : offset < narrow.length := (List.getElem?_eq_some_iff.mp hread).1
  rwa [byte?, List.getElem?_append_left hinside]

/-- A piece in a narrow window is the same in a wider one. -/
theorem Bytes.slice?_of_prefix (h : narrow <+: wide) {offset count : Nat} {piece : List UInt8}
    (hread : slice? narrow offset count = some piece) : slice? wide offset count = some piece := by
  obtain ⟨rest, rfl⟩ := h
  rwa [slice?_append rest (slice?_eq_some_iff.mp hread).1]

theorem Bytes.word32?_of_prefix (h : narrow <+: wide) {offset : Nat} {word : UInt32}
    (hread : word32? narrow offset = some word) : word32? wide offset = some word := by
  obtain ⟨piece, hpiece, hword⟩ := Option.map_eq_some_iff.mp hread
  rw [word32?, slice?_of_prefix h hpiece, Option.map_some, hword]

theorem Bytes.word64?_of_prefix (h : narrow <+: wide) {offset : Nat} {word : UInt64}
    (hread : word64? narrow offset = some word) : word64? wide offset = some word := by
  obtain ⟨piece, hpiece, hword⟩ := Option.map_eq_some_iff.mp hread
  rw [word64?, slice?_of_prefix h hpiece, Option.map_some, hword]

/-- The first word of a frame is the same in a wider window. -/
theorem Frame.firstWord?_of_prefix (h : narrow <+: wide) {type : UInt8} {word : UInt32}
    (hread : firstWord? type narrow = some word) : firstWord? type wide = some word := by
  obtain ⟨hword, htype⟩ := Option.filter_eq_some_iff.mp hread
  exact Option.filter_eq_some_iff.mpr ⟨Bytes.word32?_of_prefix h hword, htype⟩

/-- A request id that is found in a narrow window is the one of the message. -/
theorem Thrift.requestId?_of_prefix (h : narrow <+: wide) {requestId : UInt64}
    (hread : requestId? narrow = some requestId) : requestId? wide = some requestId := by
  simp only [requestId?, bind, Option.bind_eq_some_iff] at hread ⊢
  obtain ⟨first, hfirst, type, htype, _, hcall, nameSize, hname, _, hsize, fieldType, hfield, _,
    hint, hvalue⟩ := hread
  exact ⟨first, Bytes.word32?_of_prefix h hfirst, type, Bytes.byte?_of_prefix h htype, _, hcall,
    nameSize, Bytes.word32?_of_prefix h hname, _, hsize, fieldType,
    Bytes.byte?_of_prefix h hfield, _, hint, Bytes.word64?_of_prefix h hvalue⟩

/-- A context frame that is read in a narrow window is the one of the message. -/
theorem Context.read?_of_prefix (h : narrow <+: wide) {found : UInt64 × Path}
    (hread : read? narrow = some found) : read? wide = some found := by
  simp only [read?, bind, Option.bind_eq_some_iff] at hread ⊢
  obtain ⟨word, hword, traceId, hid, record, hrecord, path, hpath, hfound⟩ := hread
  exact ⟨word, Frame.firstWord?_of_prefix h hword, traceId, Bytes.word64?_of_prefix h hid, record,
    Bytes.slice?_of_prefix h hrecord, path, hpath, hfound⟩

end Reads

namespace Header

/-! Cursors -/

/-- One cursor is not ahead of another, or there is no cursor in either place. -/
abbrev NotAhead : Option UInt8 → Option UInt8 → Prop := Option.Rel (· ≤ ·)

theorem NotAhead.refl (cursor : Option UInt8) : NotAhead cursor cursor := by
  cases cursor with
  | none => exact .none
  | some cursor => exact .some (UInt8.le_refl cursor)

/-- Not to be ahead is transitive. -/
theorem NotAhead.trans {first second third : Option UInt8} (h : NotAhead first second)
    (h' : NotAhead second third) : NotAhead first third := by
  cases h with
  | none => exact h'
  | some hle =>
      cases h' with
      | some hle' => exact .some (UInt8.le_trans hle hle')

/-- A cursor is not ahead of the next one. -/
theorem notAhead_bump (cursor : Option UInt8) : NotAhead cursor (cursor.map bump) := by
  cases cursor with
  | none => exact .none
  | some cursor =>
      refine .some (UInt8.le_iff_toNat_le.mpr ?_)
      unfold bump
      split
      · rename_i hlast
        exact Nat.le_of_eq (congrArg UInt8.toNat hlast)
      · rename_i hne
        have hlt := cursor.toNat_lt
        have hbelow : cursor.toNat ≠ 255 := fun h => hne (UInt8.toNat_inj.mp h)
        rw [UInt8.toNat_add, UInt8.toNat_one]
        omega

variable {narrow wide : List UInt8}

/-- No step moves a cursor back. -/
theorem notAhead_step (bytes : List UInt8) (cursor : Option UInt8) (offset : Nat) :
    NotAhead cursor (step bytes cursor offset).2 := by
  rcases step_snd_cases bytes cursor offset with hsame | hmoved
  · rw [hsame]
    exact .refl cursor
  · rw [hmoved]
    exact notAhead_bump cursor

/-- Examining fields moves no cursor back. -/
theorem notAhead_fields (bytes : List UInt8) (frameEnd budget : Nat) (cursor : Option UInt8)
    (offset : Nat) : NotAhead cursor (fields bytes frameEnd budget cursor offset).2 := by
  induction budget generalizing cursor offset with
  | zero => exact .refl cursor
  | succ budget ih =>
      have hstep := notAhead_step bytes cursor offset
      rw [fields]
      split
      · exact .refl cursor
      · generalize step bytes cursor offset = examined at hstep
        obtain ⟨taken, after⟩ := examined
        cases taken with
        | unreadable | tracing => exact hstep
        | next place => exact hstep.trans (ih after place)

/-! Scans -/

/-- A value that a narrow window cannot skip is unreadable there, and else it is skipped alike. -/
theorem skipValue_of_prefix (h : narrow <+: wide) (before : Nat) :
    skipValue narrow before = .unreadable ∨ skipValue narrow before = skipValue wide before := by
  unfold skipValue
  cases hread : Bytes.byte? narrow (before + 1) with
  | none => exact Or.inl rfl
  | some lengthByte => exact Or.inr (by rw [Bytes.byte?_of_prefix h hread])

/-- A name that a narrow window shows is told alike in a wider one. -/
theorem spellsTracingName?_of_prefix (h : narrow <+: wide) {offset nameLength : Nat}
    {lead : UInt8} {spells : Bool}
    (hread : spellsTracingName? narrow offset lead nameLength = some spells) :
    spellsTracingName? wide offset lead nameLength = some spells := by
  unfold spellsTracingName? at hread ⊢
  split at hread
  · rename_i hcompared
    obtain ⟨name, hname, hspells⟩ := Option.map_eq_some_iff.mp hread
    rw [if_pos hcompared, Bytes.slice?_of_prefix h hname, Option.map_some, hspells]
  · rename_i hcompared
    rwa [if_neg hcompared]

/-- **A step in a narrow window** cannot be taken, or is the step in the wider one. -/
theorem step_of_prefix (h : narrow <+: wide) (cursor : Option UInt8) (offset : Nat) :
    ((step narrow cursor offset).1 = .unreadable ∧
        NotAhead (step narrow cursor offset).2 (step wide cursor offset).2) ∨
      step narrow cursor offset = step wide cursor offset := by
  have hlost : step narrow cursor offset = (.unreadable, cursor) →
      (step narrow cursor offset).1 = .unreadable ∧
        NotAhead (step narrow cursor offset).2 (step wide cursor offset).2 := by
    intro hnarrow
    rw [hnarrow]
    exact ⟨rfl, notAhead_step wide cursor offset⟩
  cases hlead : Bytes.byte? narrow offset with
  | none => exact Or.inl (hlost (by simp only [step, hlead]))
  | some lead =>
      have hlead' := Bytes.byte?_of_prefix h hlead
      cases hlayout : Representation.ofLead lead with
      | indexed | sizeUpdate =>
          right
          simp only [step, hlead, hlead', hlayout]
      | indexedName =>
          simp only [step, hlead, hlead', hlayout]
          split
          · exact Or.inr rfl
          · rcases skipValue_of_prefix h offset with hskip | hskip
            · exact Or.inl ⟨hskip, .refl cursor⟩
            · exact Or.inr (by rw [hskip])
      | newName =>
          cases hlength : Bytes.byte? narrow (offset + 1) with
          | none => exact Or.inl (hlost (by simp only [step, hlead, hlayout, hlength]))
          | some lengthByte =>
              have hlength' := Bytes.byte?_of_prefix h hlength
              cases hspells : spellsTracingName? narrow offset lead (lengthOf lengthByte) with
              | none => exact Or.inl (hlost (by simp only [step, hlead, hlayout, hlength, hspells]))
              | some spells =>
                  have hspells' := spellsTracingName?_of_prefix h hspells
                  simp only [step, hlead, hlead', hlayout, hlength, hlength', hspells, hspells']
                  cases spells with
                  | true => exact Or.inr rfl
                  | false =>
                      -- The name is gone by in both windows, so both cursors have moved.
                      rcases skipValue_of_prefix h (offset + 1 + lengthOf lengthByte) with
                        hskip | hskip
                      · exact Or.inl ⟨hskip, .refl _⟩
                      · exact Or.inr (by rw [hskip])

/-- **A scan of a narrow window** passes, or is the scan of the wider one; and it does not move
the cursor farther. -/
theorem fields_of_prefix (h : narrow <+: wide) (frameEnd budget : Nat) (cursor : Option UInt8)
    (offset : Nat) :
    let lost := fields narrow frameEnd budget cursor offset
    let full := fields wide frameEnd budget cursor offset
    (lost.1 = .pass ∨ lost = full) ∧ NotAhead lost.2 full.2 := by
  intro lost full
  induction budget generalizing cursor offset with
  | zero => exact ⟨Or.inr rfl, .refl cursor⟩
  | succ budget ih =>
      by_cases hbehind : offset > frameEnd
      · have hend : lost = full := by simp only [lost, full, fields, if_pos hbehind]
        exact ⟨Or.inr hend, hend ▸ .refl _⟩
      · rcases step_of_prefix h cursor offset with ⟨hunread, hcursor⟩ | hsame
        · have hlost : lost = (.pass, (step narrow cursor offset).2) := by
            simp only [lost, fields, if_neg hbehind]
            generalize step narrow cursor offset = examined at hunread ⊢
            obtain ⟨taken, after⟩ := examined
            obtain rfl : taken = _ := hunread
            rfl
          have hfull : NotAhead (step wide cursor offset).2 full.2 := by
            simp only [full, fields, if_neg hbehind]
            generalize step wide cursor offset = examined
            obtain ⟨taken, after⟩ := examined
            cases taken with
            | unreadable | tracing => exact .refl after
            | next place => exact notAhead_fields wide frameEnd budget after place
          rw [hlost]
          exact ⟨Or.inl rfl, hcursor.trans hfull⟩
        · simp only [lost, full, fields, if_neg hbehind, hsame]
          generalize step wide cursor offset = examined
          obtain ⟨taken, after⟩ := examined
          cases taken with
          | unreadable | tracing => exact ⟨Or.inr rfl, .refl after⟩
          | next place => exact ih after place

/-- What a pass makes of a narrow window, against what it makes of a wider one. -/
structure Loses (lost full : Scan × Option UInt8) : Prop where
  result : lost.1 = .pass ∨ lost.1 = full.1
  cursor : NotAhead lost.2 full.2

theorem Loses.refl (ended : Scan × Option UInt8) : Loses ended ended :=
  ⟨Or.inr rfl, .refl ended.2⟩

/-- Whatever is reported of a scan, a narrow window only loses, as long as passing is reported
as such. -/
theorem loses_fields (h : narrow <+: wide) (frameEnd budget : Nat) (cursor : Option UInt8)
    (offset : Nat) {report : Outcome → Scan} (hpass : report .pass = .pass) :
    let lost := fields narrow frameEnd budget cursor offset
    let full := fields wide frameEnd budget cursor offset
    Loses (report lost.1, lost.2) (report full.1, full.2) := by
  intro lost full
  obtain ⟨hresult, hcursor⟩ := fields_of_prefix h frameEnd budget cursor offset
  refine ⟨?_, hcursor⟩
  rcases hresult with hlost | hsame
  · exact Or.inl ((congrArg report hlost).trans hpass)
  · exact Or.inr (congrArg (fun ended => report ended.1) hsame)

theorem loses_scan (h : narrow <+: wide) (cursor : Option UInt8) (start : Continuation) :
    Loses (scan narrow cursor start) (scan wide cursor start) := by
  rw [scan_eq, scan_eq]
  exact loses_fields h _ _ _ _ rfl

/-- The first pass over a narrow window only loses. -/
theorem loses_locate (h : narrow <+: wide) (cursor : Option UInt8) :
    Loses (locate narrow cursor) (locate wide cursor) := by
  cases hword : Frame.firstWord? Frame.headersType narrow with
  | none =>
      have hnarrow : locate narrow cursor = (.pass, cursor) := by rw [locate, hword]
      rw [hnarrow]
      refine ⟨Or.inl rfl, ?_⟩
      unfold locate
      split
      · exact .refl cursor
      · rw [scan_eq]
        exact notAhead_fields _ _ _ _ _
  | some word =>
      rw [locate_eq hword, locate_eq (Frame.firstWord?_of_prefix h hword)]
      exact loses_fields h _ _ _ _ rfl

theorem loses_resume (h : narrow <+: wide) (cursor : Option UInt8)
    (start : Option Continuation) :
    Loses (resume narrow cursor start) (resume wide cursor start) := by
  cases start with
  | none => exact .refl _
  | some start =>
      rw [resume_some_eq, resume_some_eq]
      exact loses_fields h _ _ _ _ rfl

end Header

/-! The maps -/

/-- What a pass for `peer` over a narrow window makes of `maps`, against what it makes of them
over a wider one: it passes or has the same result, the peer's cursor is not ahead, and no
other cursor is touched. -/
structure Maps.Loses (maps : Maps) (peer : UInt32) (lost full : Scan × Maps) : Prop where
  result : lost.1 = .pass ∨ lost.1 = full.1
  cursor : Header.NotAhead (lost.2.cursors.get? peer) (full.2.cursors.get? peer)
  others : ∀ other, other ≠ peer →
    lost.2.cursors.get? other = maps.cursors.get? other ∧
      full.2.cursors.get? other = maps.cursors.get? other

/-- Over the maps too a narrow window only loses, if it does for every cursor. -/
theorem Maps.loses_withCursor {peer : UInt32} {lost full : Option UInt8 → Scan × Option UInt8}
    (hlost : ∀ cursor, (lost cursor).2.isSome = cursor.isSome)
    (hfull : ∀ cursor, (full cursor).2.isSome = cursor.isSome)
    (h : ∀ cursor, Header.Loses (lost cursor) (full cursor)) (maps : Maps) :
    maps.Loses peer (maps.withCursor peer lost) (maps.withCursor peer full) where
  result := by
    rw [withCursor_fst, withCursor_fst]
    exact (h _).result
  cursor := by
    rw [get?_withCursor hlost, get?_withCursor hfull]
    exact (h _).cursor
  others other hne := ⟨get?_withCursor_of_ne hne, get?_withCursor_of_ne hne⟩

/-- **A narrower window loses a match or changes nothing.**  Of any message, let the first
bytes be in view, and then the same or more of them.  Each pass for a peer, from any maps and
slots, finds nothing in the narrower window or ends alike in both; the peer's cursor is not
ahead of where the wider window leaves it, and the other cursors stay.  The request id of a
call, and what a context frame carries, are not found in the narrower window or are the
same. -/
theorem narrower_window_only_loses (maps : Maps) (peer : UInt32) (bytes : List UInt8)
    {narrow wide : Nat} (h : narrow ≤ wide) :
    maps.Loses peer (maps.locate peer (bytes.take narrow)) (maps.locate peer (bytes.take wide)) ∧
      (∀ start, maps.Loses peer (maps.scan peer (bytes.take narrow) start)
        (maps.scan peer (bytes.take wide) start)) ∧
      maps.Loses peer (maps.resume peer (bytes.take narrow))
        (maps.resume peer (bytes.take wide)) ∧
      (Thrift.requestId? (bytes.take narrow) = none ∨
        Thrift.requestId? (bytes.take narrow) = Thrift.requestId? (bytes.take wide)) ∧
      (Context.read? (bytes.take narrow) = none ∨
        Context.read? (bytes.take narrow) = Context.read? (bytes.take wide)) := by
  have hprefix : bytes.take narrow <+: bytes.take wide := List.take_prefix_take_left h
  refine ⟨?_, fun start => ?_, ?_, ?_, ?_⟩
  · exact Maps.loses_withCursor (Header.isSome_locate _) (Header.isSome_locate _)
      (Header.loses_locate hprefix) maps
  · exact Maps.loses_withCursor (Header.isSome_scan _ · start) (Header.isSome_scan _ · start)
      (Header.loses_scan hprefix · start) maps
  · exact Maps.loses_withCursor (Header.isSome_resume _ · _) (Header.isSome_resume _ · _)
      (Header.loses_resume hprefix · _) maps
  · cases hread : Thrift.requestId? (bytes.take narrow) with
    | none => exact Or.inl rfl
    | some requestId => exact Or.inr (Thrift.requestId?_of_prefix hprefix hread).symm
  · cases hread : Context.read? (bytes.take narrow) with
    | none => exact Or.inl rfl
    | some found => exact Or.inr (Context.read?_of_prefix hprefix hread).symm

/-- A window that ends in the name of the second field.  The new name of the first field is
gone by, and the tracing header behind it is lost. -/
theorem narrower_window_only_loses_cutName :
    let bytes := Frame.encode Frame.headersType
      (Field.encodeAll [.literal [1, 2] [3], .tracing [1, 2, 3, 4, 5, 6, 7, 8]])
    let maps : Maps := { cursors := Table.empty.put 5 70 }
    18 ≤ bytes.length ∧
      maps.Loses 5 (maps.locate 5 (bytes.take 18)) (maps.locate 5 (bytes.take bytes.length)) ∧
      (maps.locate 5 (bytes.take 18)).1 = .pass ∧
      (maps.locate 5 (bytes.take bytes.length)).1 = .found 15 := by
  intro bytes maps
  have hle : 18 ≤ bytes.length := by decide
  exact ⟨hle, (narrower_window_only_loses maps 5 bytes hle).1, by decide +kernel,
    by decide +kernel⟩

end MeshTrace
