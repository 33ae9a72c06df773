import MeshTrace.Proofs.Frame.Basic
import MeshTrace.Proofs.Header.Block
import MeshTrace.Proofs.Header.Passes

/-!
# What follows a frame of header fields

A scan stops where a field would start behind the end of its frame, but not where one would
start right at the end.  So a scan that gets through all fields with one to spare takes the
bytes behind the frame for one more field (`onePass_headersFrame`).

Two messages that start with the same frame are therefore treated alike exactly if the bytes
behind it look alike to such a scan, or there is none (`Maps.search_behind_frame_iff`).
Another frame behind the headers can move the peer's cursor on, and bytes behind the headers
can be found in their place (`Maps.search_reads_behind_frame`).
-/

namespace MeshTrace

namespace Header

/-- A frame of header fields; `flags` are the bytes between its first word and its payload. -/
def headersFrame (flags : List UInt8) (block : List Field) : List UInt8 :=
  BigEndian.spell32 (Frame.word Frame.headersType (Field.encodeAll block).length) ++
    (flags ++ Field.encodeAll block)

/-- What a scan takes the bytes behind a frame for: whether they are the tracing header to
it, and the cursor that it ends with. -/
def behindFrame (rest : List UInt8) (cursor : Option UInt8) : Bool × Option UInt8 :=
  ((step rest cursor 0).1 == .tracing, (step rest cursor 0).2)

variable {bytes rest : List UInt8} {cursor : Option UInt8}

/-- Behind the end of the frame no field is examined. -/
theorem fields_of_lt {frameEnd offset : Nat} (h : frameEnd < offset) (budget : Nat) :
    (fields bytes frameEnd budget cursor offset).1.final = .pass ∧
      (fields bytes frameEnd budget cursor offset).2 = cursor := by
  cases budget with
  | zero => exact ⟨rfl, rfl⟩
  | succ budget =>
      rw [fields, if_pos h]
      exact ⟨rfl, rfl⟩

/-- **A scan that starts at the end of a frame reads on.**  It examines the bytes behind the
frame as one field. -/
theorem fields_frameEnd (frame rest : List UInt8) (left : Nat) (cursor : Option UInt8) :
    let ended := fields (frame ++ rest) frame.length (left + 1) cursor frame.length
    ended.1.final =
        (if (behindFrame rest cursor).1 then .found (UInt32.ofNat frame.length) else .pass) ∧
      ended.2 = (behindFrame rest cursor).2 := by
  intro ended
  have hstep := step_append frame rest cursor 0
  rw [Nat.add_zero] at hstep
  have hended : fields (frame ++ rest) frame.length (left + 1) cursor frame.length = ended := rfl
  rw [fields, if_neg (Nat.lt_irrefl _), hstep] at hended
  rw [← hended]
  unfold behindFrame
  generalize hread : step rest cursor 0 = read
  obtain ⟨taken, after⟩ := read
  cases taken with
  | unreadable | tracing => exact ⟨rfl, rfl⟩
  | next offset =>
      -- A field takes a byte at least, so the next one would start behind the end.
      have hnext := (step_next hread).1
      exact fields_of_lt (by omega) left

/-- How a scan ends that walked the fields of a frame, with `rest` behind the frame. -/
def walked (frameLength : Nat) (rest : List UInt8) : Walk → Scan × Option UInt8
  | .ended outcome cursor => (outcome.final, cursor)
  | .through 0 cursor => (.pass, cursor)
  | .through (_ + 1) cursor =>
    (if (behindFrame rest cursor).1 then .found (UInt32.ofNat frameLength) else .pass,
      (behindFrame rest cursor).2)

section

variable {block : List Field} {flags : List UInt8}

/-- The frame of a block starts with the word of a HEADERS frame. -/
theorem firstWord?_headersFrame (hlength : (Field.encodeAll block).length ≤ Frame.maxLength)
    (rest : List UInt8) :
    Frame.firstWord? Frame.headersType (headersFrame flags block ++ rest) =
      some (Frame.word Frame.headersType (Field.encodeAll block).length) := by
  rw [headersFrame, List.append_assoc]
  exact Frame.firstWord?_headers hlength _

/-- What follows a frame does not change how many of its fields are examined. -/
theorem searchBudget_headersFrame
    (hlength : (Field.encodeAll block).length ≤ Frame.maxLength) (rest : List UInt8) :
    searchBudget (headersFrame flags block ++ rest) = searchBudget (headersFrame flags block) := by
  have hbare := @firstWord?_headersFrame block flags hlength []
  rw [List.append_nil] at hbare
  simp only [searchBudget, firstWord?_headersFrame hlength, hbare]

/-- A frame is as long as its header and its block. -/
theorem length_headersFrame (hflags : flags.length = 5) :
    (headersFrame flags block).length = Frame.headerSize + (Field.encodeAll block).length := by
  simp [headersFrame, BigEndian.spell32, hflags, Frame.headerSize]
  omega

/-- Over a frame a scan goes field by field, and then looks at what follows. -/
theorem fields_headersFrame (h : ∀ field ∈ block, field.WellFormed) (hflags : flags.length = 5)
    (rest : List UInt8) (budget : Nat) (cursor : Option UInt8) :
    let frame := headersFrame flags block
    fields (frame ++ rest) frame.length budget cursor Frame.headerSize =
      match walk block budget cursor Frame.headerSize with
      | .ended outcome cursor => (outcome, cursor)
      | .through left cursor => fields (frame ++ rest) frame.length left cursor frame.length := by
  intro frame
  let head := BigEndian.spell32 (Frame.word Frame.headersType (Field.encodeAll block).length) ++
    flags
  have hhead : head.length = Frame.headerSize := by
    simp [head, BigEndian.spell32, hflags, Frame.headerSize]
  have hframe : frame = head ++ Field.encodeAll block := (List.append_assoc _ _ _).symm
  have hscan := fields_encodeAll h head rest budget cursor
  rwa [← List.append_assoc, ← hframe, hhead, ← length_headersFrame hflags] at hscan

/-- **A scan of a frame and what follows it.** -/
theorem onePass_headersFrame (h : ∀ field ∈ block, field.WellFormed)
    (hlength : (Field.encodeAll block).length ≤ Frame.maxLength) (hflags : flags.length = 5)
    (rest : List UInt8) (budget : Nat) (cursor : Option UInt8) :
    onePass budget (headersFrame flags block ++ rest) cursor =
      walked (headersFrame flags block).length rest
        (walk block budget cursor Frame.headerSize) := by
  simp only [onePass, firstWord?_headersFrame hlength, Frame.lengthOf_word _ hlength,
    ← length_headersFrame hflags]
  rw [fields_headersFrame h hflags]
  cases walk block budget cursor Frame.headerSize with
  | ended outcome after => rfl
  | through left after =>
      cases left with
      | zero => rfl
      | succ left =>
          obtain ⟨hfinal, hafter⟩ := fields_frameEnd (headersFrame flags block) rest left after
          exact Prod.ext hfinal hafter

end

/-- The bytes behind a frame make a difference only to a scan that gets through it with a
field to spare. -/
theorem walked_eq_iff {frameLength : Nat} {rest₁ rest₂ : List UInt8} {reached : Walk} :
    walked frameLength rest₁ reached = walked frameLength rest₂ reached ↔
      ∀ left cursor, reached = .through (left + 1) cursor →
        behindFrame rest₁ cursor = behindFrame rest₂ cursor := by
  cases reached with
  | ended outcome cursor => exact iff_of_true rfl nofun
  | through left cursor =>
      cases left with
      | zero => exact iff_of_true rfl nofun
      | succ left =>
          simp only [walked, Prod.mk.injEq, Walk.through.injEq, Nat.add_right_cancel_iff]
          constructor
          · rintro ⟨hfound, hcursor⟩ _ _ ⟨rfl, rfl⟩
            refine Prod.ext ?_ hcursor
            cases hfirst : (behindFrame rest₁ cursor).1 <;>
              cases hsecond : (behindFrame rest₂ cursor).1 <;>
              simp_all
          · intro hsame
            rw [hsame left cursor ⟨rfl, rfl⟩]
            exact ⟨rfl, rfl⟩

/-- A scan in one go gives no cursor and takes none away. -/
theorem isSome_onePass (budget : Nat) (bytes : List UInt8) (cursor : Option UInt8) :
    (onePass budget bytes cursor).2.isSome = cursor.isSome := by
  unfold onePass
  split
  · rfl
  · exact isSome_fields _ _ _ _ _

end Header

namespace Maps

open Header

/-- Result and cursor of both passes are those of one scan. -/
theorem search_result_cursor {maps : Maps} (hoffset : maps.args.offset.present)
    (hargs : maps.args.frameLength.present) (peer : UInt32) (bytes : List UInt8) :
    ((maps.search peer bytes).1, (maps.search peer bytes).2.cursors.get? peer) =
      onePass (searchBudget bytes) bytes (maps.cursors.get? peer) := by
  obtain ⟨hresult, hmaps⟩ := search_eq hoffset hargs peer bytes
  have hcursor := congrArg (fun maps => maps.cursors.get? peer) hmaps
  rw [withCursor_fst] at hresult
  refine Prod.ext hresult (hcursor.trans ?_)
  exact get?_withCursor (isSome_onePass _ _) maps peer

/-- **When the bytes behind a frame matter.**  Let two messages start with the same frame of
complete header fields and go on in any way.  Both passes end alike for them, with the same
result and the same cursors, exactly if a scan that gets through all the fields with one to
spare would take what follows for the same: for the tracing header, or for a new name, or for
neither. -/
theorem search_behind_frame_iff {maps : Maps} (hoffset : maps.args.offset.present)
    (hargs : maps.args.frameLength.present) {block : List Field} {flags : List UInt8}
    (hblock : ∀ field ∈ block, field.WellFormed)
    (hlength : (Field.encodeAll block).length ≤ Frame.maxLength) (hflags : flags.length = 5)
    (peer : UInt32) (rest₁ rest₂ : List UInt8) :
    let frame := headersFrame flags block
    let first := maps.search peer (frame ++ rest₁)
    let second := maps.search peer (frame ++ rest₂)
    (first.1 = second.1 ∧ first.2.cursors = second.2.cursors) ↔
      ∀ left cursor, walk block (searchBudget frame) (maps.cursors.get? peer) Frame.headerSize =
          .through (left + 1) cursor →
        behindFrame rest₁ cursor = behindFrame rest₂ cursor := by
  intro frame first second
  have hsearch : ∀ rest,
      let single := maps.withCursor peer (onePass (searchBudget frame) (frame ++ rest))
      (maps.search peer (frame ++ rest)).1 = single.1 ∧
        (maps.search peer (frame ++ rest)).2.cursors = single.2.cursors := by
    intro rest single
    obtain ⟨hresult, hmaps⟩ := search_eq hoffset hargs peer (frame ++ rest)
    rw [searchBudget_headersFrame hlength] at hresult hmaps
    have hcursors := congrArg Maps.cursors hmaps
    exact ⟨hresult, hcursors⟩
  rw [(hsearch rest₁).1, (hsearch rest₁).2, (hsearch rest₂).1, (hsearch rest₂).2,
    withCursor_eq_iff (isSome_onePass _ _) (isSome_onePass _ _),
    onePass_headersFrame hblock hlength hflags, onePass_headersFrame hblock hlength hflags,
    walked_eq_iff]

/-- A DATA frame of five bytes. -/
def dataFrame : List UInt8 :=
  [0, 0, 5, 0, 0, 0, 0, 0, 1] ++ List.replicate 5 0

/-- A DATA frame behind the headers is nothing to the scan of a peer without a cursor. -/
theorem search_behind_frame_dataFrame :
    let maps : Maps := {}
    let bare := maps.search 5 (headersFrame [4, 0, 0, 0, 1] [.indexed 0x82] ++ [])
    let followed := maps.search 5 (headersFrame [4, 0, 0, 0, 1] [.indexed 0x82] ++ dataFrame)
    bare.1 = followed.1 ∧ bare.2.cursors = followed.2.cursors := by
  intro maps bare followed
  have hlength : (Field.encodeAll [.indexed 0x82]).length ≤ Frame.maxLength := by decide
  refine (@search_behind_frame_iff maps rfl rfl _ _ (by decide) hlength rfl 5 [] dataFrame).mpr ?_
  intro left cursor hwalk
  have hthrough : walk [.indexed 0x82] (2 * fieldsPerPass) none Frame.headerSize =
      .through 11 none := by decide
  obtain ⟨-, rfl⟩ := Walk.through.inj (hthrough.symm.trans hwalk)
  decide

/-- **What follows a frame can matter.**  To a peer with a cursor a DATA frame starts with a
new name, and that moves the cursor on.  Bytes behind the frame that spell the tracing header
are found there, although the frame has none. -/
theorem search_reads_behind_frame :
    let block : List Field := [.indexed 0x82]
    let frame := headersFrame [4, 0, 0, 0, 1] block
    let maps : Maps := { cursors := Table.empty.put 5 62 }
    (∀ field ∈ block, field.WellFormed) ∧
      (maps.search 5 frame).2.cursors.get? 5 = some 62 ∧
      (maps.search 5 (frame ++ dataFrame)).2.cursors.get? 5 = some 63 ∧
      (maps.search 9 frame).1 = .pass ∧
      (maps.search 9 (frame ++ (Field.tracing [1, 2, 3, 4, 5, 6, 7, 8]).encode)).1 = .found 10 := by
  refine ⟨by decide, ?_, ?_, ?_, ?_⟩ <;> rfl

end Maps

end MeshTrace
