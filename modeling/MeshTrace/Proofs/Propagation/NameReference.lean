import MeshTrace.Proofs.Bytes.Pieces
import MeshTrace.Proofs.Propagation.TraceId

/-!
# References to a name of the table

A field that takes its name from the table refers to it by an index of any size: an index below
63 stands in the low six bits of the leading byte, and for a larger one these bits are all set and
the rest follows in bytes of seven bits each (`nameReference`).  A scan reads the leading byte
alone.  So the first field of a message, if it is such a reference, is taken for the tracing
header exactly if the peer's cursor is the index, or 63 where the index is not below it
(`reference_taken_iff`).

A cursor other than 63 is therefore never mistaken, and the bytes that are then taken for the id
start the value.  At 63 every large index is taken for the header's, and the bytes that the rest of
the index fills push the value out of the place where it is looked for
(`escape_taken_for_reference`).
-/

namespace MeshTrace

open Propagation

namespace Header

/-! ### Indices of any size -/

/-- The number that six set bits stand for.  From it on an index does not fit into a leading
byte. -/
def indexEscape : Nat := 63

/-- A number by its digits of seven bits, the lowest one first.  The top bit says that another
one follows. -/
def continuationBytes (number : Nat) : List UInt8 :=
  if number < 128 then [UInt8.ofNat number]
  else (0x80 ||| UInt8.ofNat (number % 128)) :: continuationBytes (number / 128)

/-- The first bytes of a field that enters the table and takes its name from entry `index`. -/
def nameReference (index : Nat) : List UInt8 :=
  if index < indexEscape then [0x40 ||| UInt8.ofNat index]
  else 0x7F :: continuationBytes (index - indexEscape)

/-- A field that takes its name from entry `index`, with its value. -/
def referenceBytes (index : Nat) (valueLength : UInt8) (value : List UInt8) : List UInt8 :=
  nameReference index ++ valueLength :: value

/-- What a scan sees of a reference: a leading byte that enters the table and takes a name from
it, and of the index as much as six bits can tell. -/
structure RefersTo (lead : UInt8) (index : Nat) : Prop where
  layout : Representation.ofLead lead = .indexedName
  enters : entersTable lead
  indexOf : (indexOf lead).toNat = min index indexEscape

/-- An index below 63 stands in the leading byte as it is. -/
theorem refersTo_of_lt {index : Nat} (hpos : 0 < index) (hlt : index < indexEscape) :
    RefersTo (0x40 ||| UInt8.ofNat index) index := by
  have hall : ∀ n : Fin 63, 0 < n.val →
      Representation.ofLead (0x40 ||| UInt8.ofNat n) = .indexedName ∧
        entersTable (0x40 ||| UInt8.ofNat n) ∧ (indexOf (0x40 ||| UInt8.ofNat n)).toNat = n := by
    decide +kernel
  obtain ⟨hlayout, henters, hindex⟩ := hall ⟨index, hlt⟩ hpos
  exact ⟨hlayout, henters, hindex.trans (Nat.min_eq_left (Nat.le_of_lt hlt)).symm⟩

/-- Of an index from 63 on the leading byte tells only that it is one. -/
theorem refersTo_of_le {index : Nat} (hle : indexEscape ≤ index) : RefersTo 0x7F index :=
  ⟨by decide, by decide, (Nat.min_eq_right hle).symm⟩

/-- A reference has a leading byte, and below 63 nothing else. -/
theorem exists_refersTo {index : Nat} (hpos : 0 < index) :
    ∃ lead more, nameReference index = lead :: more ∧ RefersTo lead index ∧
      (index < indexEscape → more = []) := by
  unfold nameReference
  split
  · rename_i hlt
    exact ⟨_, [], rfl, refersTo_of_lt hpos hlt, fun _ => rfl⟩
  · rename_i hge
    exact ⟨_, _, rfl, refersTo_of_le (Nat.le_of_not_lt hge), fun hlt => absurd hlt hge⟩

/-- The value of a reference is looked for behind two bytes, however long the index is. -/
theorem RefersTo.valueOffset_eq {lead : UInt8} {index : Nat} (h : RefersTo lead index)
    (offset : Nat) : valueOffset offset lead = offset + 2 := by
  have hnames : ¬ namesItself lead := by
    rw [namesItself_iff lead h.enters, h.layout]
    exact nofun
  exact if_neg hnames

/-! ### The first field -/

variable {bytes : List UInt8} {cursor : Option UInt8} {lead : UInt8} {index : Nat}

/-- A field with a name from the table is compared with the cursor by its leading byte. -/
theorem RefersTo.step_iff (h : RefersTo lead index) {offset : Nat}
    (hlead : Bytes.byte? bytes offset = some lead) :
    (step bytes cursor offset).1 = .tracing ↔ cursor = some (Header.indexOf lead) := by
  have hstep : step bytes cursor offset =
      if cursor = some (Header.indexOf lead) then (.tracing, cursor)
      else (skipValue bytes offset, cursor) := by
    simp only [step, hlead, h.layout, h.enters, true_and]
  rw [hstep]
  split
  · rename_i hcursor
    exact iff_of_true rfl hcursor
  · rename_i hcursor
    exact iff_of_false (skipValue_ne_tracing bytes offset) hcursor

/-- What a pass finds is not in front of where it started. -/
theorem le_of_fields_found {frameEnd budget offset found : Nat}
    (h : (fields bytes frameEnd budget cursor offset).1 = .found found) : offset ≤ found := by
  induction budget generalizing cursor offset with
  | zero => cases h
  | succ budget ih =>
      rw [fields] at h
      split at h
      · cases h
      · split at h
        · cases h
        · cases h
          exact Nat.le_refl _
        · rename_i hstep
          exact Nat.le_trans (Nat.le_of_lt (step_next hstep).1) (ih h)

/-- A pass finds the field that it starts with exactly if that is the tracing header by itself. -/
theorem fields_first_iff {frameEnd offset : Nat} (hinside : offset ≤ frameEnd) (budget : Nat) :
    (fields bytes frameEnd (budget + 1) cursor offset).1 = .found offset ↔
      (step bytes cursor offset).1 = .tracing := by
  rw [fields, if_neg (Nat.not_lt_of_le hinside)]
  cases hexamined : step bytes cursor offset with
  | mk result after =>
      cases result with
      | unreadable => constructor <;> intro h <;> cases h
      | tracing => exact iff_of_true rfl rfl
      | next place =>
          constructor
          · intro hfound
            exact absurd (step_next hexamined).1 (Nat.not_lt_of_le (le_of_fields_found hfound))
          · intro htracing
            cases htracing

/-- The first pass finds the header at the first field exactly if examining that field does. -/
theorem locate_first_iff {word : UInt32}
    (hword : Frame.firstWord? Frame.headersType bytes = some word) :
    (locate bytes cursor).1 = .found 9 ↔ (step bytes cursor Frame.headerSize).1 = .tracing := by
  rw [locate_eq hword, ← fields_first_iff (Nat.le_add_right _ (Frame.lengthOf word).toNat) 5]
  dsimp only
  have hreach := fields_withinReach bytes (Frame.headerSize + (Frame.lengthOf word).toNat)
    fieldsPerPass cursor Frame.headerSize
  rw [fieldsPerPass] at hreach ⊢
  generalize (fields _ _ 6 _ _).1 = outcome at hreach ⊢
  cases outcome with
  | pass | exhausted => constructor <;> intro h <;> cases h
  | found place =>
      -- A place within reach of the first pass is told apart by 32 bits.
      have hplace : (UInt32.ofNat place).toNat = place := by
        apply UInt32.toNat_ofNat_of_lt'
        simp only [WithinReach, Frame.headerSize, maxFieldSize] at hreach
        unfold UInt32.size
        omega
      constructor
      · intro hfound
        have hsame := congrArg UInt32.toNat (Scan.found.inj hfound)
        rw [hplace] at hsame
        exact congrArg Outcome.found hsame
      · rintro ⟨⟩
        rfl

end Header

open Header

/-! ### References as the first field -/

namespace Message

variable {msg : Message} {index : Nat} {value : List UInt8} {lead : UInt8}

/-- A message is a HEADERS frame whose first field takes its name from entry `index`.  What the
frame says of its own length does not matter. -/
structure StartsWithReference (msg : Message) (index : Nat) (value : List UInt8) : Prop where
  frame : (Frame.firstWord? Frame.headersType msg.bytes).isSome
  positive : 0 < index
  reference : ∃ valueLength,
    referenceBytes index valueLength value <+: msg.bytes.drop Frame.headerSize

/-- Bytes that are in view are read as they are in the message. -/
theorem slice?_addressable {offset count : Nat} (h : offset + count ≤ msg.addressable.length) :
    Bytes.slice? msg.addressable offset count = Bytes.slice? msg.bytes offset count := by
  obtain ⟨rest, hrest⟩ := msg.addressable_prefix
  rw [← hrest, Bytes.slice?_append rest h]

/-- A byte that is in view is read as it is in the message. -/
theorem byte?_addressable {offset : Nat} (h : offset < msg.addressable.length) :
    Bytes.byte? msg.addressable offset = Bytes.byte? msg.bytes offset := by
  obtain ⟨rest, hrest⟩ := msg.addressable_prefix
  rw [← hrest, Bytes.byte?, Bytes.byte?, List.getElem?_append_left h]

/-- The first word is read as it is in the message, if it is in view. -/
theorem firstWord?_addressable (h : 4 ≤ msg.addressable.length) (type : UInt8) :
    Frame.firstWord? type msg.addressable = Frame.firstWord? type msg.bytes := by
  have hinside : 0 + 4 ≤ msg.addressable.length := by omega
  rw [Frame.firstWord?, Bytes.word32?, slice?_addressable hinside]
  rfl

namespace StartsWithReference

/-- Such a message has behind the frame's header the leading byte of a reference. -/
theorem exists_lead (h : msg.StartsWithReference index value) :
    ∃ lead, RefersTo lead index ∧ Bytes.byte? msg.bytes Frame.headerSize = some lead := by
  obtain ⟨lead, more, hname, hrefers, -⟩ := exists_refersTo h.positive
  obtain ⟨valueLength, hreference⟩ := h.reference
  rw [referenceBytes, hname] at hreference
  refine ⟨lead, hrefers, Bytes.byte?_eq_some_iff_prefix.mpr (List.IsPrefix.trans ?_ hreference)⟩
  exact ⟨_, rfl⟩

/-- An index that fits into the leading byte leaves the value where it is looked for. -/
theorem slice?_value (h : msg.StartsWithReference index value) (hlt : index < indexEscape)
    (hlong : Context.traceIdSize ≤ value.length) :
    Bytes.slice? msg.bytes (Frame.headerSize + 2) Context.traceIdSize =
      some (value.take Context.traceIdSize) := by
  obtain ⟨lead, more, hname, -, hsmall⟩ := exists_refersTo h.positive
  obtain ⟨valueLength, hreference⟩ := h.reference
  obtain rfl := hsmall hlt
  have hlength : (value.take Context.traceIdSize).length = Context.traceIdSize :=
    List.length_take_of_le hlong
  have hvalue : value <+: msg.bytes.drop (Frame.headerSize + 2) := by
    have hsplit : referenceBytes index valueLength value = [lead, valueLength] ++ value := by
      rw [referenceBytes, hname]
      rfl
    rw [hsplit] at hreference
    exact (Bytes.append_prefix_drop_iff.mp hreference).2
  have hne : value.take Context.traceIdSize ≠ [] := by
    intro hnil
    rw [hnil] at hlength
    cases hlength
  have hslice := (Bytes.slice?_eq_some_iff_prefix hne).mpr ((List.take_prefix _ _).trans hvalue)
  rwa [hlength] at hslice

/-- The first pass compares the index with the cursor as far as six bits tell. -/
theorem locate_found_iff (h : msg.StartsWithReference index value) (cursor : UInt8) :
    (locate msg.addressable (some cursor)).1 = .found 9 ↔
      Frame.headerSize < msg.addressable.length ∧ cursor.toNat = min index indexEscape := by
  obtain ⟨lead, hrefers, hlead⟩ := h.exists_lead
  have hcursor : some cursor = some (indexOf lead) ↔ cursor.toNat = min index indexEscape := by
    rw [Option.some.injEq, ← UInt8.toNat_inj, hrefers.indexOf]
  constructor
  · intro hfound
    cases hword : Frame.firstWord? Frame.headersType msg.addressable with
    | none =>
        rw [locate, hword] at hfound
        cases hfound
    | some word =>
        have htracing := (locate_first_iff hword).mp hfound
        obtain ⟨-, read, hread⟩ := step_tracing (Prod.ext htracing rfl)
        have hinside : Frame.headerSize < msg.addressable.length :=
          (List.getElem?_eq_some_iff.mp hread.leading).1
        rw [hrefers.step_iff ((byte?_addressable hinside).trans hlead)] at htracing
        exact ⟨hinside, hcursor.mp htracing⟩
  · rintro ⟨hinside, hindex⟩
    obtain ⟨word, hword⟩ := Option.isSome_iff_exists.mp h.frame
    have hfour : 4 ≤ msg.addressable.length := by
      unfold Frame.headerSize at hinside
      omega
    rw [← firstWord?_addressable hfour] at hword
    refine (locate_first_iff hword).mpr ?_
    rw [hrefers.step_iff ((byte?_addressable hinside).trans hlead)]
    exact hcursor.mpr hindex

/-- The bytes that a propagation takes for the id once the first field was saved for it. -/
theorem rawId?_eq (h : msg.StartsWithReference index value) (hlt : index < indexEscape)
    (hlong : Context.traceIdSize ≤ value.length) (maps : Maps) :
    rawId? (maps.saveFound 9) msg.addressable =
      if maps.args.offset.present ∧
          Frame.headerSize + 2 + Context.traceIdSize ≤ msg.addressable.length then
        some (value.take Context.traceIdSize)
      else none := by
  obtain ⟨lead, hrefers, hlead⟩ := h.exists_lead
  have hvalue := hrefers.valueOffset_eq Frame.headerSize
  split
  · rename_i hread
    have hinside : Frame.headerSize < msg.addressable.length := by omega
    refine rawId?_saveFound.mpr ⟨⟨hread.1, by decide⟩, lead,
      (byte?_addressable hinside).trans hlead, ?_⟩
    exact (congrArg (Bytes.slice? _ · _) hvalue).trans
      ((slice?_addressable hread.2).trans (h.slice?_value hlt hlong))
  · rename_i hunread
    refine Option.eq_none_iff_forall_ne_some.mpr fun rawId hraw => hunread ?_
    obtain ⟨⟨hpresent, -⟩, read, hread, hslice⟩ := rawId?_saveFound.mp hraw
    have hinside : Frame.headerSize < msg.addressable.length :=
      (List.getElem?_eq_some_iff.mp hread).1
    obtain rfl : read = lead := by
      have hsame := (byte?_addressable hinside).trans hlead
      exact Option.some.inj (hread.symm.trans hsame)
    have hfits := (Bytes.slice?_eq_some_iff.mp hslice).1
    exact ⟨hpresent, hvalue ▸ hfits⟩

end StartsWithReference

end Message

/-- **When a reference is taken for the tracing header.**  The first field of a message takes its
name from a table entry.  The first pass finds it exactly if it can be seen and the peer's cursor
is the index of that entry, or 63 where the index is not below.  So a cursor other than 63 is the
index itself, and the trace that a propagation then tells of is spelled by the first eight bytes
of the value; it tells of none only where its slot or the service's id is missing, or these bytes
are not all in view. -/
theorem reference_taken_iff {maps : Maps} {peer : UInt32} {cursor : UInt8} {msg : Message}
    {index : Nat} {value : List UInt8} (hcursor : maps.cursors.get? peer = some cursor)
    (hmsg : msg.StartsWithReference index value) (hlong : Context.traceIdSize ≤ value.length) :
    let located := maps.locate peer msg.addressable
    (located.1 = .found 9 ↔
        Frame.headerSize < msg.addressable.length ∧ cursor.toNat = min index indexEscape) ∧
      (located.1 = .found 9 → cursor.toNat ≠ indexEscape →
        index = cursor.toNat ∧
          ((located.2.saveFound 9).propagate peer msg).1.traceId? =
            if maps.args.offset.present ∧ maps.service.get?.isSome ∧
                Frame.headerSize + 2 + Context.traceIdSize ≤ msg.addressable.length then
              some (traceIdOf (value.take Context.traceIdSize))
            else none) := by
  intro located
  have hlocated : located.1 = (locate msg.addressable (some cursor)).1 := by
    rw [← hcursor]
    exact maps.withCursor_fst peer _
  have hfound := hmsg.locate_found_iff cursor
  rw [← hlocated] at hfound
  refine ⟨hfound, fun hnine hescape => ?_⟩
  have hmin := (hfound.mp hnine).2
  have hindex : index = cursor.toNat ∧ index < indexEscape := by omega
  refine ⟨hindex.1, ?_⟩
  obtain ⟨cursors, hscanned⟩ := maps.withCursor_snd peer (locate msg.addressable)
  have hargs : located.2.args = maps.args := maps.args_withCursor peer _
  have hservice : (located.2.saveFound 9).service = maps.service :=
    (congrArg Maps.service hscanned).trans rfl
  rw [Maps.traceId?_propagate, hmsg.rawId?_eq hindex.2 hlong, hargs, hservice]
  cases maps.service.get? with
  | none => simp
  | some service =>
      simp only [Option.map_some, Option.isSome_some, true_and]
      split <;> rfl

/-- A message whose first field takes its name from entry `index` and has a value of eight
bytes. -/
def referenceMessage (index : Nat) : Message :=
  .ofBytes (Frame.encode Frame.headersType (referenceBytes index 8 [1, 2, 3, 4, 5, 6, 7, 8]))

/-- The peer's cursor is at the first dynamic index, and the first field refers to it. -/
theorem reference_taken_iff_base :
    let maps : Maps := { cursors := Table.empty.put 5 62, service := .holding 4 }
    let msg := referenceMessage 62
    let located := maps.locate 5 msg.addressable
    maps.cursors.get? 5 = some 62 ∧ msg.StartsWithReference 62 [1, 2, 3, 4, 5, 6, 7, 8] ∧
      located.1 = .found 9 ∧
      ((located.2.saveFound 9).propagate 5 msg).1.traceId? = some 0x0102030405060708 := by
  intro maps msg located
  have hcursor : maps.cursors.get? 5 = some 62 := by decide
  have hmsg : msg.StartsWithReference 62 [1, 2, 3, 4, 5, 6, 7, 8] :=
    ⟨by decide +kernel, by decide, 8, by decide +kernel⟩
  obtain ⟨hfound, htold⟩ := reference_taken_iff hcursor hmsg (by decide)
  have hlocated : located.1 = .found 9 := hfound.mpr ⟨by decide +kernel, by decide⟩
  exact ⟨hcursor, hmsg, hlocated, (htold hlocated (by decide)).2.trans (by decide +kernel)⟩

/-- **The escape is taken for an index.**  The peer's cursor is 63.  A reference to entry 64 is
taken for the tracing header; so is one to entry 63, but with the second byte of the index in
front, it is the value's length byte and seven bytes of the value that are taken for the id. -/
theorem escape_taken_for_reference :
    let maps : Maps := { cursors := Table.empty.put 5 63, service := .holding 4 }
    let value : List UInt8 := [1, 2, 3, 4, 5, 6, 7, 8]
    (referenceMessage 64).StartsWithReference 64 value ∧
      (referenceMessage 63).StartsWithReference 63 value ∧
      (maps.locate 5 (referenceMessage 64).addressable).1 = .found 9 ∧
      (maps.locate 5 (referenceMessage 63).addressable).1 = .found 9 ∧
      maps.Injects 5 (referenceMessage 63) 9 0x0801020304050607 ∧
      traceIdOf (value.take Context.traceIdSize) = 0x0102030405060708 := by
  intro maps value
  exact ⟨⟨by decide +kernel, by decide, 8, by decide +kernel⟩,
    ⟨by decide +kernel, by decide, 8, by decide +kernel⟩, by decide +kernel, by decide +kernel,
    ⟨by decide +kernel, 1, by decide +kernel⟩, by decide +kernel⟩

end MeshTrace
