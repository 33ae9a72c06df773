import MeshTrace.Proofs.Header.Passes
import MeshTrace.Proofs.Propagation
import MeshTrace.Proofs.Window

/-!
# Where a trace id comes from

A propagation takes eight bytes for a trace id (`Propagation.rawId?`): those at which the value
of the field starts that the argument slots point at.  Its outcome tells of no other trace
(`Maps.traceId?_propagate`).  After a search that field is the one that the search has found,
and the eight bytes stand where the field's own leading and length bytes let its value start
(`Maps.Injects.value`).

How long the value is, the propagation does not ask.  A value of at least eight bytes holds the
whole id, and then no byte outside the field has a part in it (`trace_id_starts_value`).  A
shorter value borrows the rest of the id from the bytes behind it (`short_value_borrows`).
-/

namespace MeshTrace

open Propagation

/-- What is in view of a message is a beginning of it. -/
theorem Message.addressable_prefix (msg : Message) : msg.addressable <+: msg.bytes := by
  obtain ⟨n, htake⟩ := msg.addressable_eq_take
  exact htake ▸ List.take_prefix n msg.bytes

/-! ### The bytes of the id -/

namespace Propagation

/-- The trace id that an outcome tells of. -/
def traceId? : Propagation → Option UInt64
  | .pass => none
  | .injected traceId _ | .aborted traceId => some traceId

/-- The bytes that a propagation takes for a trace id, if there are as many. -/
def rawId? (maps : Maps) (bytes : List UInt8) : Option (List UInt8) :=
  (header? maps bytes).bind fun header =>
    Bytes.slice? bytes (valueOffset header.1 header.2) Context.traceIdSize

/-- What is sent is sent under the id that was read, injected or not. -/
theorem traceId?_send (maps : Maps) (msg : Message) (rawId : List UInt8) (service : UInt8) :
    (send maps msg rawId service).1.traceId? = some (traceIdOf rawId) := by
  unfold send
  dsimp only
  split <;> rfl

/-- The value starts as far behind the field's start as the leading byte says. -/
theorem valueOffset_eq_add (offset : Nat) (lead : UInt8) :
    valueOffset offset lead = offset + valueOffset 0 lead := by
  unfold valueOffset
  split <;> omega

/-- **Which bytes are taken after a search**: those at which the value starts of the field that
was saved for the propagator. -/
theorem rawId?_saveFound {maps : Maps} {found : UInt32} {bytes rawId : List UInt8} :
    rawId? (maps.saveFound found) bytes = some rawId ↔
      (maps.args.offset.present ∧ found ≤ Header.maxOffset) ∧
        ∃ lead, Bytes.byte? bytes found.toNat = some lead ∧
          Bytes.slice? bytes (valueOffset found.toNat lead) Context.traceIdSize = some rawId := by
  rw [rawId?, header?, Maps.saveFound, ArgSlots.bounded?_saveFound]
  by_cases hread : maps.args.offset.present ∧ found ≤ Header.maxOffset
  · cases hlead : Bytes.byte? bytes found.toNat with
    | none => simp [hread, hlead]
    | some lead => simp [hread, hlead]
  · simp [hread]

end Propagation

/-- **Which trace an outcome tells of**: the one that the bytes spell which are taken for its
id.  It tells of none where there are no such bytes, or the service has no id of its own. -/
theorem Maps.traceId?_propagate (maps : Maps) (peer : UInt32) (msg : Message) :
    (maps.propagate peer msg).1.traceId? =
      (rawId? maps msg.addressable).bind fun rawId =>
        maps.service.get?.map fun _ => traceIdOf rawId := by
  unfold Maps.propagate rawId?
  cases header? maps msg.addressable with
  | none => rfl
  | some header =>
      obtain ⟨offset, lead⟩ := header
      simp only [Option.bind_some, service_trackNewName]
      cases Bytes.slice? msg.addressable (valueOffset offset lead) Context.traceIdSize with
      | none => rfl
      | some rawId =>
          cases maps.service.get? with
          | none => rfl
          | some service => exact traceId?_send _ _ _ _

/-! ### The field that a search has found -/

namespace Header

/-- Where the value of the field at `offset` starts and ends, by the field's own leading and
length bytes. -/
def valueSpan? (bytes : List UInt8) (offset : Nat) : Option (Nat × Nat) :=
  (valueStart? bytes offset).bind fun start =>
    (Bytes.byte? bytes (start - 1)).map fun lengthByte => (start, start + lengthOf lengthByte)

/-- The bytes of the field at `offset`, up to the end of its value. -/
def fieldAt? (bytes : List UInt8) (offset : Nat) : Option (List UInt8) :=
  (valueSpan? bytes offset).map fun span => (bytes.drop offset).take (span.2 - offset)

/-- A field ends where its value does. -/
theorem fieldAt?_of_valueSpan? {bytes : List UInt8} {offset start stop : Nat}
    (h : valueSpan? bytes offset = some (start, stop)) :
    fieldAt? bytes offset = some ((bytes.drop offset).take (stop - offset)) := by
  rw [fieldAt?, h, Option.map_some]

variable {narrow wide : List UInt8} {cursor : Option UInt8} {offset : Nat} {lead : UInt8}

/-- A tracing header in a narrow window is one of the whole message. -/
theorem IsTracing.of_prefix (hview : narrow <+: wide) (h : IsTracing narrow cursor offset lead) :
    IsTracing wide cursor offset lead where
  leading := Bytes.byte?_of_prefix hview h.leading
  enters := h.enters
  named := by
    rcases h.named with ⟨hnew, ⟨lengthByte, hlength, hsize⟩, hname⟩ | hindexed
    · exact Or.inl ⟨hnew, ⟨lengthByte, Bytes.byte?_of_prefix hview hlength, hsize⟩,
        Bytes.slice?_of_prefix hview hname⟩
    · exact Or.inr hindexed

end Header

open Header

/-- A second pass starts within bounds. -/
theorem ArgSlots.offset_le_of_load? {slots : ArgSlots} {start : Continuation}
    (h : slots.load? = some start) : start.offset ≤ maxOffset := by
  obtain ⟨place, hplace, hrestored⟩ := Option.bind_eq_some_iff.mp h
  obtain ⟨length, -, rfl⟩ := Option.map_eq_some_iff.mp hrestored
  exact of_decide_eq_true (Option.filter_eq_some_iff.mp hplace).2

namespace Maps

variable {maps : Maps} {peer : UInt32} {msg : Message} {offset : UInt32} {traceId : UInt64}

/-- What both passes find is a tracing header. -/
theorem isTracing_of_search {bytes : List UInt8}
    (h : (maps.search peer bytes).1 = .found offset) :
    ∃ cursor lead, IsTracing bytes cursor offset.toNat lead := by
  by_cases hended : ∀ rest, (maps.locate peer bytes).1 ≠ .exhausted rest
  · rw [search_of_ne_exhausted hended, locate, withCursor_fst] at h
    obtain ⟨-, lead, htracing⟩ := locate_found (Prod.ext h rfl)
    exact ⟨_, lead, htracing⟩
  · obtain ⟨rest, hrest⟩ := not_forall_not.mp hended
    rw [search_of_exhausted hrest, resume, withCursor_fst] at h
    dsimp only at h
    cases hload : (maps.args.save rest).load? with
    | none =>
        rw [hload] at h
        cases h
    | some start =>
        rw [hload] at h
        obtain ⟨-, lead, htracing⟩ :=
          resume_found (Prod.ext h rfl) (ArgSlots.offset_le_of_load? hload)
        exact ⟨_, lead, htracing⟩

/-- A search finds the tracing header of a message at `offset`, and the propagation that follows
puts a context frame for `traceId` in front. -/
structure Injects (maps : Maps) (peer : UInt32) (msg : Message) (offset : UInt32)
    (traceId : UInt64) : Prop where
  found : (maps.search peer msg.addressable).1 = .found offset
  injected : ∃ hops,
    (((maps.search peer msg.addressable).2.saveFound offset).propagate peer msg).1 =
      .injected traceId hops

/-- **The id starts the value.**  The eight bytes that spell the trace id stand where the value
of the found field starts. -/
theorem Injects.value (h : maps.Injects peer msg offset traceId) :
    ∃ lead stop, Bytes.byte? msg.bytes offset.toNat = some lead ∧
      valueSpan? msg.bytes offset.toNat = some (valueOffset offset.toNat lead, stop) ∧
      valueOffset offset.toNat lead + Context.traceIdSize ≤ msg.bytes.length ∧
      traceId =
        traceIdOf ((msg.bytes.drop (valueOffset offset.toNat lead)).take Context.traceIdSize) := by
  have hview := msg.addressable_prefix
  obtain ⟨hops, hinjected⟩ := h.injected
  have htold := congrArg Propagation.traceId? hinjected
  rw [traceId?_propagate] at htold
  obtain ⟨rawId, hraw, htrace⟩ := Option.bind_eq_some_iff.mp htold
  obtain ⟨-, -, rfl⟩ := Option.map_eq_some_iff.mp htrace
  obtain ⟨-, lead, hlead, hslice⟩ := rawId?_saveFound.mp hraw
  -- The field that is taken is the one that was found.
  obtain ⟨cursor, named, hfound⟩ := isTracing_of_search h.found
  obtain rfl : lead = named := Option.some.inj (hlead.symm.trans hfound.leading)
  have htracing := hfound.of_prefix hview
  obtain ⟨hfits, rfl⟩ := Bytes.slice?_eq_some_iff.mp (Message.slice?_of_addressable hslice)
  have hbefore : valueOffset offset.toNat lead - 1 < msg.bytes.length := by
    unfold Context.traceIdSize at hfits
    omega
  obtain ⟨lengthByte, hlength⟩ : ∃ lengthByte,
      Bytes.byte? msg.bytes (valueOffset offset.toNat lead - 1) = some lengthByte :=
    ⟨_, List.getElem?_eq_getElem hbefore⟩
  refine ⟨lead, valueOffset offset.toNat lead + lengthOf lengthByte, htracing.leading, ?_, hfits,
    rfl⟩
  rw [valueSpan?, htracing.valueStart?_eq, Option.bind_some, hlength, Option.map_some]

/-- A field that is long enough spells the id itself. -/
theorem Injects.spelled {field : List UInt8} {lead : UInt8}
    (h : maps.Injects peer msg offset traceId)
    (hfield : fieldAt? msg.bytes offset.toNat = some field) (hlead : field.head? = some lead)
    (hlong : valueOffset 0 lead + Context.traceIdSize ≤ field.length) :
    traceId = traceIdOf ((field.drop (valueOffset 0 lead)).take Context.traceIdSize) := by
  obtain ⟨named, stop, hread, hspan, hfits, rfl⟩ := h.value
  obtain rfl := Option.some.inj ((fieldAt?_of_valueSpan? hspan).symm.trans hfield)
  have hpositive : stop - offset.toNat ≠ 0 := by
    intro hzero
    rw [hzero] at hlead
    cases hlead
  obtain rfl : named = lead := by
    rw [List.head?_take, if_neg hpositive, List.head?_drop] at hlead
    exact Option.some.inj (hread.symm.trans hlead)
  have hinside : Context.traceIdSize ≤ stop - offset.toNat - valueOffset 0 named := by
    rw [List.length_take] at hlong
    omega
  rw [valueOffset_eq_add, List.drop_take, List.drop_drop, List.take_take, Nat.min_eq_left hinside]

end Maps

/-- **Which bytes are taken for a trace id.**  A search finds the tracing header in a message, and
the propagation that follows injects a context frame.  The eight bytes of the message that it
takes for the trace id stand where the value starts of the field that was found.  If that value,
by its own length byte, is at least as long, they lie inside it, and then the field decides on
the id: of whatever messages, for whatever peers and from whatever maps the same field is found,
the same id is injected. -/
theorem trace_id_starts_value {maps : Maps} {peer : UInt32} {msg : Message} {offset : UInt32}
    {traceId : UInt64} (h : maps.Injects peer msg offset traceId) :
    ∃ start stop, valueSpan? msg.bytes offset.toNat = some (start, stop) ∧
      start + Context.traceIdSize ≤ msg.bytes.length ∧
      traceId = traceIdOf ((msg.bytes.drop start).take Context.traceIdSize) ∧
      (start + Context.traceIdSize ≤ stop →
        ∀ maps' peer' msg' offset' traceId', Maps.Injects maps' peer' msg' offset' traceId' →
          fieldAt? msg'.bytes offset'.toNat = fieldAt? msg.bytes offset.toNat →
          traceId' = traceId) := by
  obtain ⟨lead, stop, hread, hspan, hfits, hid⟩ := h.value
  refine ⟨_, stop, hspan, hfits, hid, ?_⟩
  intro hinside maps' peer' msg' offset' traceId' h' hsame
  have hfield := fieldAt?_of_valueSpan? hspan
  rw [valueOffset_eq_add] at hinside hfits
  have hpositive : stop - offset.toNat ≠ 0 := by
    unfold Context.traceIdSize at hinside
    omega
  have hlead : ((msg.bytes.drop offset.toNat).take (stop - offset.toNat)).head? = some lead := by
    rw [List.head?_take, if_neg hpositive, List.head?_drop]
    exact hread
  have hlong : valueOffset 0 lead + Context.traceIdSize ≤
      ((msg.bytes.drop offset.toNat).take (stop - offset.toNat)).length := by
    rw [List.length_take, List.length_drop]
    omega
  rw [h.spelled hfield hlead hlong, h'.spelled (hsame.trans hfield) hlead hlong]

/-- A message with two fields: the tracing header and, behind it, one whose name has two
bytes. -/
def tracingThen (value name : List UInt8) : Message :=
  .ofBytes (Frame.encode Frame.headersType
    (Field.encodeAll [.tracing value, .literal name [6, 7, 8]]))

/-- The value of the tracing header has eight bytes: what the field behind it is called has no
part in the id. -/
theorem trace_id_starts_value_eight :
    let maps : Maps := { service := .holding 4 }
    let value := [1, 2, 3, 4, 5, 6, 7, 8]
    maps.Injects 5 (tracingThen value [4, 5]) 9 0x0102030405060708 ∧
      maps.Injects 5 (tracingThen value [5, 5]) 9 0x0102030405060708 ∧
      ∀ traceId, maps.Injects 5 (tracingThen value [5, 5]) 9 traceId →
        traceId = 0x0102030405060708 := by
  intro maps value
  have h : maps.Injects 5 (tracingThen value [4, 5]) 9 0x0102030405060708 :=
    ⟨by decide +kernel, 1, by decide +kernel⟩
  refine ⟨h, ⟨by decide +kernel, 1, by decide +kernel⟩, fun traceId h' => ?_⟩
  obtain ⟨start, stop, hspan, -, -, hsame⟩ := trace_id_starts_value h
  have height : valueSpan? (tracingThen value [4, 5]).bytes 9 = some (21, 29) := by decide +kernel
  obtain ⟨rfl, rfl⟩ := Prod.mk.inj (Option.some.inj (height.symm.trans hspan))
  exact hsame (by decide) _ _ _ _ _ h' (by decide +kernel)

/-- **A short value borrows.**  The value of the tracing header has three bytes, so five bytes of
the field behind it are taken for the rest of the id.  With another name there, another trace is
injected, though the field that was found is the same. -/
theorem short_value_borrows :
    let maps : Maps := { service := .holding 4 }
    let msg := tracingThen [1, 2, 3] [4, 5]
    let msg' := tracingThen [1, 2, 3] [5, 5]
    maps.Injects 5 msg 9 0x0102034002040503 ∧ maps.Injects 5 msg' 9 0x0102034002050503 ∧
      valueSpan? msg.bytes 9 = some (21, 24) ∧
      fieldAt? msg.bytes 9 = some (Field.tracing [1, 2, 3]).encode ∧
      fieldAt? msg'.bytes 9 = fieldAt? msg.bytes 9 := by
  intro maps msg msg'
  exact ⟨⟨by decide +kernel, 1, by decide +kernel⟩, ⟨by decide +kernel, 1, by decide +kernel⟩,
    by decide +kernel, by decide +kernel, by decide +kernel⟩

end MeshTrace
