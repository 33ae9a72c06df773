import MeshTrace.Proofs.Frame.Basic
import MeshTrace.Proofs.Frame.Context

/-!
# Which messages carry a context frame

The reader of context frames looks at the type byte of a message's first word and at the
payload behind its header, and at nothing else (`read?_eq_some_iff`): the length that the
frame claims, its flags and its stream may be anything.  So a message carries a frame
exactly if it is long enough and has the type, and what is read from it is what a sender
would have to put in front to have it read (`context_frame_codec`).

The reader also refuses messages that start with text.  No such text has the type of a
context frame, so this refusal never decides anything.
-/

namespace MeshTrace

/-- A piece is read exactly if its two halves are, one behind the other. -/
theorem Bytes.slice?_add {bytes left right : List UInt8} {offset : Nat} :
    slice? bytes offset (left.length + right.length) = some (left ++ right) ↔
      slice? bytes offset left.length = some left ∧
        slice? bytes (offset + left.length) right.length = some right := by
  have hsplit : (bytes.drop offset).take (left.length + right.length) =
      (bytes.drop offset).take left.length ++
        (bytes.drop (offset + left.length)).take right.length := by
    rw [List.take_add, List.drop_drop]
  simp only [slice?_eq_some_iff, hsplit]
  constructor
  · rintro ⟨hfit, hpieces⟩
    have hlength : left.length = ((bytes.drop offset).take left.length).length := by
      rw [List.length_take, List.length_drop]
      omega
    obtain ⟨hleft, hright⟩ := List.append_inj hpieces hlength
    exact ⟨⟨by omega, hleft⟩, by omega, hright⟩
  · rintro ⟨⟨-, hleft⟩, hfit, hright⟩
    exact ⟨by omega, by rw [← hleft, ← hright]⟩

/-- The fourth byte of a message is the type of its first word. -/
theorem Frame.byte?_of_word32? {bytes : List UInt8} {word : UInt32}
    (h : Bytes.word32? bytes 0 = some word) : Bytes.byte? bytes 3 = some (typeOf word) := by
  obtain ⟨piece, hslice, rfl⟩ := Option.map_eq_some_iff.mp h
  obtain ⟨hfit, rfl⟩ := Bytes.slice?_eq_some_iff.mp hslice
  match bytes with
  | a :: b :: c :: d :: rest =>
      have htype : typeOf (UInt32.ofNat (BigEndian.value [a, b, c, d])) = d := by
        have hlow := d.toNat_lt
        apply UInt8.toNat_inj.mp
        rw [toNat_typeOf, UInt32.toNat_ofNat']
        simp only [BigEndian.value, List.foldl_cons, List.foldl_nil]
        omega
      exact congrArg some htype.symm
  | [] | [_] | [_, _] | [_, _, _] => simp at hfit

/-- No text that a message may start with has the type of a context frame. -/
theorem Frame.not_isPreamble_of_typeOf {word : UInt32} (h : typeOf word = contextType) :
    isPreamble word = false := by
  rw [Bool.eq_false_iff]
  intro htext
  have htype := typeOf_of_isPreamble htext
  rw [h] at htype
  exact absurd htype (by decide)

namespace Context

open Propagation

/-- A trace id is spelled with eight bytes. -/
theorem length_spell64 (traceId : UInt64) : (BigEndian.spell64 traceId).length = traceIdSize :=
  BigEndian.length_spell 8 traceId.toNat

/-- A trace id is read back from its spelling. -/
@[simp] theorem traceIdOf_spell64 (traceId : UInt64) :
    traceIdOf (BigEndian.spell64 traceId) = traceId := by
  have hlt : traceId.toNat < BigEndian.weight 8 := traceId.toNat_lt
  rw [traceIdOf, BigEndian.spell64, BigEndian.value_spell, Nat.mod_eq_of_lt hlt,
    UInt64.ofNat_toNat]

/-- Eight bytes spell the trace id that they are read as. -/
theorem spell64_traceIdOf {rawId : List UInt8} (h : rawId.length = traceIdSize) :
    BigEndian.spell64 (traceIdOf rawId) = rawId := by
  have hlt : BigEndian.value rawId < UInt64.size := by
    have hvalue := BigEndian.value_lt rawId
    rwa [h] at hvalue
  have hspell := BigEndian.spell_value rawId
  rw [h] at hspell
  rw [traceIdOf, BigEndian.spell64, UInt64.toNat_ofNat_of_lt' hlt]
  exact hspell

/-- A trace id is read exactly where its spelling stands. -/
theorem word64?_eq_some_iff {bytes : List UInt8} {offset : Nat} {traceId : UInt64} :
    Bytes.word64? bytes offset = some traceId ↔
      Bytes.slice? bytes offset traceIdSize = some (BigEndian.spell64 traceId) := by
  rw [Bytes.word64?, Option.map_eq_some_iff]
  constructor
  · rintro ⟨rawId, hslice, hid⟩
    have hlength := Bytes.length_of_slice? hslice
    have hid : traceIdOf rawId = traceId := hid
    rwa [← hid, spell64_traceIdOf hlength]
  · intro hslice
    exact ⟨_, hslice, traceIdOf_spell64 traceId⟩

/-- A message starts with the first word of context frames exactly if its fourth byte says
so. -/
theorem exists_firstWord?_iff (bytes : List UInt8) :
    (∃ word, Frame.firstWord? Frame.contextType bytes = some word) ↔
      Bytes.byte? bytes 3 = some Frame.contextType := by
  simp only [Frame.firstWord?, Option.filter_eq_some_iff, Bool.and_eq_true, Bool.not_eq_true',
    beq_iff_eq]
  constructor
  · rintro ⟨word, hword, -, htype⟩
    rw [Frame.byte?_of_word32? hword, htype]
  · intro hbyte
    have hlong : 3 < bytes.length := (List.getElem?_eq_some_iff.mp hbyte).1
    have hslice : Bytes.slice? bytes 0 4 = some ((bytes.drop 0).take 4) :=
      Bytes.slice?_eq_some_iff.mpr ⟨by omega, rfl⟩
    obtain ⟨word, hword⟩ : ∃ word, Bytes.word32? bytes 0 = some word :=
      ⟨_, by rw [Bytes.word32?, hslice, Option.map_some]⟩
    have htype : Frame.typeOf word = Frame.contextType := by
      rw [Frame.byte?_of_word32? hword] at hbyte
      exact Option.some.inj hbyte
    exact ⟨word, hword, Frame.not_isPreamble_of_typeOf htype, htype⟩

/-- Behind the right first word, a context frame is read if its two parts are. -/
theorem read?_eq_bind (bytes : List UInt8) {word : UInt32}
    (hword : Frame.firstWord? Frame.contextType bytes = some word) :
    read? bytes =
      (Bytes.word64? bytes traceIdOffset).bind fun traceId =>
        ((Bytes.slice? bytes pathOffset pathRecordSize).bind Path.ofBytes?).map (traceId, ·) := by
  simp only [read?, hword, Option.bind_eq_bind, Option.bind_some, Option.pure_def]
  cases Bytes.word64? bytes traceIdOffset with
  | none => rfl
  | some traceId =>
      cases Bytes.slice? bytes pathOffset pathRecordSize with
      | none => rfl
      | some record =>
          simp only [Option.bind_some, Option.map_eq_bind]
          rfl

/-- **What the reader looks at.**  A trace id and a path are read from the messages with the
type byte of a context frame whose payload spells them, and from no others. -/
theorem read?_eq_some_iff {bytes : List UInt8} {traceId : UInt64} {path : Path} :
    read? bytes = some (traceId, path) ↔
      Bytes.byte? bytes 3 = some Frame.contextType ∧
        Bytes.slice? bytes traceIdOffset payloadSize =
          some (BigEndian.spell64 traceId ++ path.toBytes) := by
  have hpayload := @Bytes.slice?_add bytes (BigEndian.spell64 traceId) path.toBytes traceIdOffset
  rw [length_spell64, Path.length_toBytes] at hpayload
  have hplace : traceIdOffset + traceIdSize = pathOffset := rfl
  rw [payloadSize, hpayload, hplace, ← word64?_eq_some_iff, ← exists_firstWord?_iff]
  constructor
  · intro hread
    cases hword : Frame.firstWord? Frame.contextType bytes with
    | none =>
        rw [read?, hword] at hread
        cases hread
    | some word =>
        rw [read?_eq_bind bytes hword] at hread
        obtain ⟨id, hid, hread⟩ := Option.bind_eq_some_iff.mp hread
        obtain ⟨found, hfound, hpair⟩ := Option.map_eq_some_iff.mp hread
        obtain ⟨record, hrecord, hpath⟩ := Option.bind_eq_some_iff.mp hfound
        cases hpair
        rw [Path.toBytes_of_ofBytes? hpath]
        exact ⟨⟨word, rfl⟩, hid, hrecord⟩
  · rintro ⟨⟨word, hword⟩, hid, hrecord⟩
    rw [read?_eq_bind bytes hword, hid, hrecord]
    simp

/-- A message that is long enough and has the type of a context frame is read. -/
theorem exists_read?_eq_some {bytes : List UInt8} (hlength : frameSize ≤ bytes.length)
    (htype : Bytes.byte? bytes 3 = some Frame.contextType) :
    ∃ traceId path, read? bytes = some (traceId, path) := by
  let payload := (bytes.drop traceIdOffset).take payloadSize
  let rawId := payload.take traceIdSize
  let record := payload.drop traceIdSize
  have hpayload : payload.length = payloadSize := by
    simp only [payload, List.length_take, List.length_drop]
    unfold frameSize at hlength
    unfold traceIdOffset
    omega
  have hrawId : rawId.length = traceIdSize := by
    simp only [rawId, List.length_take, hpayload]
    decide
  have hrecord : record.length = pathSlots + 1 := by
    simp only [record, List.length_drop, hpayload]
    decide
  obtain ⟨count, slots, hslots⟩ := List.exists_cons_of_length_eq_add_one hrecord
  rw [hslots, List.length_cons, Nat.add_right_cancel_iff] at hrecord
  refine ⟨traceIdOf rawId, ⟨count, slots, hrecord⟩, read?_eq_some_iff.mpr ⟨htype, ?_⟩⟩
  have hbytes : BigEndian.spell64 (traceIdOf rawId) ++ Path.toBytes ⟨count, slots, hrecord⟩ =
      payload := by
    rw [spell64_traceIdOf hrawId, Path.toBytes, ← hslots]
    exact List.take_append_drop _ _
  rw [hbytes]
  refine Bytes.slice?_eq_some_iff.mpr ⟨?_, rfl⟩
  exact hlength

/-- Nothing shorter than a context frame is read as one. -/
theorem length_of_read? {bytes : List UInt8} {traceId : UInt64} {path : Path}
    (h : read? bytes = some (traceId, path)) : frameSize ≤ bytes.length :=
  (Bytes.slice?_eq_some_iff.mp (read?_eq_some_iff.mp h).2).1

/-- **Which messages are read.**  The refusal of text plays no part. -/
theorem read?_eq_none_iff {bytes : List UInt8} :
    read? bytes = none ↔
      bytes.length < frameSize ∨ Bytes.byte? bytes 3 ≠ some Frame.contextType := by
  constructor
  · intro hnone
    by_cases hshort : bytes.length < frameSize
    · exact Or.inl hshort
    · refine Or.inr fun htype => ?_
      obtain ⟨traceId, path, hsome⟩ := exists_read?_eq_some (Nat.le_of_not_lt hshort) htype
      rw [hnone] at hsome
      cases hsome
  · intro hunread
    cases hread : read? bytes with
    | none => rfl
    | some found =>
        have hlong := length_of_read? hread
        have htype := (read?_eq_some_iff.mp hread).1
        rcases hunread with hshort | hother
        · exact absurd hlong (Nat.not_le_of_lt hshort)
        · exact absurd htype hother

/-- Two messages with one slice in common have its bytes in common. -/
theorem byte?_eq_of_slice? {bytes other piece : List UInt8} {offset n : Nat}
    (h : Bytes.slice? bytes offset piece.length = some piece)
    (hother : Bytes.slice? other offset piece.length = some piece)
    (hle : offset ≤ n) (hlt : n < offset + piece.length) :
    Bytes.byte? bytes n = Bytes.byte? other n := by
  have hbyte : ∀ {message : List UInt8},
      Bytes.slice? message offset piece.length = some piece →
        message[n]? = piece[n - offset]? := by
    intro message hslice
    obtain ⟨-, hpiece⟩ := Bytes.slice?_eq_some_iff.mp hslice
    rw [hpiece, List.getElem?_take_of_lt (by omega), List.getElem?_drop, Nat.add_sub_cancel' hle]
  rw [Bytes.byte?, Bytes.byte?, hbyte h, hbyte hother]

/-- The frame of what was read differs from the message at most in its header. -/
theorem byte?_frame_of_read? {bytes : List UInt8} {traceId : UInt64} {path : Path}
    (h : read? bytes = some (traceId, path)) {n : Nat}
    (hn : n = 3 ∨ traceIdOffset ≤ n ∧ n < frameSize) :
    Bytes.byte? (frame (BigEndian.spell64 traceId) path) n = Bytes.byte? bytes n := by
  have hframe := read?_frame path [] (length_spell64 traceId)
  rw [List.append_nil, traceIdOf_spell64] at hframe
  obtain ⟨htype, hpayload⟩ := read?_eq_some_iff.mp h
  obtain ⟨hframeType, hframePayload⟩ := read?_eq_some_iff.mp hframe
  rcases hn with rfl | ⟨hle, hlt⟩
  · rw [htype, hframeType]
  · have hsize : (BigEndian.spell64 traceId ++ path.toBytes).length = payloadSize := by
      rw [List.length_append, length_spell64, Path.length_toBytes]
      rfl
    rw [← hsize] at hpayload hframePayload
    refine byte?_eq_of_slice? hframePayload hpayload hle ?_
    rwa [hsize]

/-- The first three bytes of a frame count the bytes behind its header. -/
theorem value_take_frame {rawId : List UInt8} (path : Path) (h : rawId.length = traceIdSize) :
    BigEndian.value ((frame rawId path).take 3) =
      ((frame rawId path).drop Frame.headerSize).length := by
  have hframe : frame rawId path = frameHead ++ (rawId ++ path.toBytes) :=
    List.append_assoc _ _ _
  have hhead : (frame rawId path).take 3 = frameHead.take 3 := by
    rw [hframe]
    exact List.take_append_of_le_length (by decide)
  have hcount : BigEndian.value (frameHead.take 3) = payloadSize := by decide
  rw [hhead, hcount, List.length_drop, length_frame path h]
  rfl

/-- **Context frames and their reader fit together.**  A frame is read back whatever follows
it, has 118 bytes, and counts the bytes behind its header in its first three.  What is read
from any message is spelled by a frame that agrees with the message in the type byte and in
the whole payload.  Nothing is read exactly from the messages that are too short or have
another type, and no text has the type of a context frame. -/
theorem context_frame_codec :
    (∀ (rawId : List UInt8) (path : Path) (rest : List UInt8), rawId.length = traceIdSize →
      read? (frame rawId path ++ rest) = some (traceIdOf rawId, path) ∧
        (frame rawId path).length = 118 ∧
        BigEndian.value ((frame rawId path).take 3) =
          ((frame rawId path).drop Frame.headerSize).length) ∧
      (∀ bytes traceId path, read? bytes = some (traceId, path) →
        ∀ n, n = 3 ∨ 9 ≤ n ∧ n ≤ 117 →
          Bytes.byte? (frame (BigEndian.spell64 traceId) path) n = Bytes.byte? bytes n) ∧
      (∀ bytes, read? bytes = none ↔
        bytes.length < 118 ∨ Bytes.byte? bytes 3 ≠ some Frame.contextType) ∧
      ∀ word, Frame.typeOf word = Frame.contextType → Frame.isPreamble word = false := by
  refine ⟨?_, ?_, ?_, ?_⟩
  · intro rawId path rest hrawId
    exact ⟨read?_frame path rest hrawId, length_frame path hrawId, value_take_frame path hrawId⟩
  · intro bytes traceId path hread n hn
    have hplace : n = 3 ∨ traceIdOffset ≤ n ∧ n < frameSize :=
      hn.imp_right fun h => ⟨h.1, Nat.lt_succ_of_le h.2⟩
    exact byte?_frame_of_read? hread hplace
  · intro bytes
    exact read?_eq_none_iff
  · intro word htype
    exact Frame.not_isPreamble_of_typeOf htype

/-- A record with more hops than a path can have, and no byte that is zero. -/
def crowded : Path := ⟨200, List.replicate pathSlots 7, List.length_replicate⟩

/-- A message whose first frame claims another length, with flags and a stream that no sender
sets. -/
def foreign : List UInt8 :=
  [0x12, 0x34, 0x56, Frame.contextType, 1, 2, 3, 4, 5] ++ [1, 2, 3, 4, 5, 6, 7, 8] ++
    crowded.toBytes ++ [9, 9]

/-- A crowded record makes the round trip, and is read from a foreign frame whose payload the
sender's frame repeats. -/
theorem context_frame_codec_foreign :
    let rawId : List UInt8 := [1, 2, 3, 4, 5, 6, 7, 8]
    let traceId : UInt64 := 0x0102030405060708
    rawId.length = traceIdSize ∧ read? (frame rawId crowded ++ [9]) = some (traceId, crowded) ∧
      read? foreign = some (traceId, crowded) ∧
      ∀ n, 9 ≤ n ∧ n ≤ 117 →
        Bytes.byte? (frame (BigEndian.spell64 traceId) crowded) n = Bytes.byte? foreign n := by
  intro rawId traceId
  obtain ⟨hencode, hdecode, -, -⟩ := context_frame_codec
  have hrawId : rawId.length = traceIdSize := rfl
  have hid : traceIdOf rawId = traceId := by decide
  have hread : read? foreign = some (traceId, crowded) := by decide +kernel
  refine ⟨hrawId, ?_, hread, ?_⟩
  · rw [← hid]
    exact (hencode rawId crowded [9] hrawId).1
  · intro n hn
    exact hdecode foreign traceId crowded hread n (Or.inr hn)

end Context

end MeshTrace
