import MeshTrace.Proofs.Bytes.Pieces
import MeshTrace.Thrift
import Mathlib.Data.Option.Basic

/-!
# Which messages carry a request id

A request id is read from a message at offsets that the message itself gives: the sign of its
first word tells whether a frame length stands in front of the call, and the call tells how long
its method's name is.  `Carries` is the grammar of such messages, said without offsets.

What a request id is read from are exactly the messages of the grammar
(`call_grammar_is_exact`).  Each piece of the grammar stands where the reader looks for it
(`opening_prefix_iff`, `requestId?_eq_some_iff_prefix`); of the pieces between it looks at the
length alone, and they are there because the request id behind them is.

A strict call starts with a negative word, so it is read alike with and without a frame length.
-/

namespace MeshTrace

/-- The number that some bytes spell in two's complement. -/
def BigEndian.signedValue (bytes : List UInt8) : Int :=
  Int.bmod (value bytes) (weight bytes.length)

namespace Thrift

/-- A message up to its request id: what stands in front of the call, the version and the type
of a call, the method's name behind its length, the sequence number, and a field's type and
number. -/
def opening (front version name sequence fieldId : List UInt8) (requestId : UInt64) :
    List UInt8 :=
  front ++ (version ++ ([0x01] ++ (BigEndian.spell32 (UInt32.ofNat name.length) ++ (name ++
    (sequence ++ ([0x0A] ++ (fieldId ++ BigEndian.spell64 requestId)))))))

/-- How many bytes stand in front of the call: four if the first four bytes of the message,
read as a signed number, are positive. -/
def frontSize (bytes : List UInt8) : Nat :=
  if 0 < BigEndian.signedValue (bytes.take 4) then 4 else 0

/-- **The grammar of messages with a request id.** -/
def Carries (bytes : List UInt8) (requestId : UInt64) : Prop :=
  ∃ front version name sequence fieldId rest : List UInt8,
    bytes = opening front version name sequence fieldId requestId ++ rest ∧
      front.length = frontSize bytes ∧ version.length = 3 ∧ name.length ≤ 256 ∧
      sequence.length = 4 ∧ fieldId.length = 2

/-- A strict call whose first field is a 64-bit integer. -/
structure Call where
  name : List UInt8
  name_le : name.length ≤ 256
  sequence : UInt32
  fieldId : UInt16
  requestId : UInt64

/-- The bytes of a call, up to its first field. -/
def Call.encode (call : Call) : List UInt8 :=
  [0x80, 0x01, 0x00, 0x01] ++ BigEndian.spell32 (UInt32.ofNat call.name.length) ++ call.name ++
    BigEndian.spell32 call.sequence ++ [0x0A] ++ BigEndian.spell 2 call.fieldId.toNat ++
    BigEndian.spell64 call.requestId

theorem value_spell32 (word : UInt32) :
    BigEndian.value (BigEndian.spell32 word) = word.toNat := by
  have hlt : word.toNat < BigEndian.weight 4 := word.toNat_lt
  rw [BigEndian.spell32, BigEndian.value_spell, Nat.mod_eq_of_lt hlt]

/-- The call starts where the sign of the first word says. -/
theorem base_eq (first : UInt32) :
    base first = if 0 < BigEndian.signedValue (BigEndian.spell32 first) then 4 else 0 := by
  have hlt := first.toNat_lt
  have hweight : BigEndian.weight (BigEndian.spell32 first).length = 4294967296 := by
    rw [BigEndian.spell32, BigEndian.length_spell]
    rfl
  have hsign : 0 < BigEndian.signedValue (BigEndian.spell32 first) ↔
      first ≠ 0 ∧ first < 0x80000000 := by
    have hzero : first ≠ 0 ↔ first.toNat ≠ 0 := not_congr UInt32.toNat_inj.symm
    have hhalf : first < 0x80000000 ↔ first.toNat < 2147483648 := UInt32.lt_iff_toNat_lt
    rw [hzero, hhalf, BigEndian.signedValue, hweight, value_spell32, Int.bmod_def]
    split <;> omega
  simp only [base, hsign]

variable {bytes : List UInt8} {requestId : UInt64}

/-- **What the reader looks at.** -/
theorem requestId?_eq_some_iff_prefix :
    requestId? bytes = some requestId ↔ ∃ first nameSize : UInt32,
      BigEndian.spell32 first <+: bytes.drop 0 ∧ [callType] <+: bytes.drop (base first + 3) ∧
        BigEndian.spell32 nameSize <+: bytes.drop (base first + 4) ∧ nameSize ≤ maxNameSize ∧
        [int64Type] <+: bytes.drop (base first + nameSize.toNat + fieldTypeOffset) ∧
        BigEndian.spell64 requestId <+:
          bytes.drop (base first + nameSize.toNat + requestIdOffset) := by
  simp only [requestId?, bind, Option.bind_eq_some_iff, Option.guard_eq_some',
    ← Bytes.byte?_eq_some_iff_prefix, ← Bytes.word32?_eq_some_iff_prefix,
    ← Bytes.word64?_eq_some_iff_prefix]
  constructor
  · rintro ⟨first, hfirst, _, htype, _, rfl, nameSize, hname, _, hsize, _, hfield, _, rfl,
      hvalue⟩
    exact ⟨first, nameSize, hfirst, htype, hname, hsize, hfield, hvalue⟩
  · rintro ⟨first, nameSize, hfirst, htype, hname, hsize, hfield, hvalue⟩
    exact ⟨first, hfirst, _, htype, (), rfl, nameSize, hname, (), hsize, _, hfield, (), rfl,
      hvalue⟩

/-- **Each piece of the grammar stands at its offset.** -/
theorem opening_prefix_iff {front version name sequence fieldId : List UInt8}
    (hversion : version.length = 3) (hsequence : sequence.length = 4)
    (hfield : fieldId.length = 2) :
    opening front version name sequence fieldId requestId <+: bytes.drop 0 ↔
      let start := front.length
      let nameEnd := start + 8 + name.length
      front <+: bytes.drop 0 ∧ version <+: bytes.drop start ∧ [0x01] <+: bytes.drop (start + 3) ∧
        BigEndian.spell32 (UInt32.ofNat name.length) <+: bytes.drop (start + 4) ∧
        name <+: bytes.drop (start + 8) ∧ sequence <+: bytes.drop nameEnd ∧
        [0x0A] <+: bytes.drop (nameEnd + 4) ∧ fieldId <+: bytes.drop (nameEnd + 5) ∧
        BigEndian.spell64 requestId <+: bytes.drop (nameEnd + 7) := by
  have hspell : (BigEndian.spell32 (UInt32.ofNat name.length)).length = 4 :=
    BigEndian.length_spell _ _
  simp only [opening, Bytes.append_prefix_drop_iff, hversion, hsequence, hfield, hspell,
    List.length_singleton, Nat.zero_add, Nat.add_assoc, Nat.reduceAdd]

/-- A message of four bytes or more has a first word. -/
theorem exists_first_word (h : 4 ≤ bytes.length) :
    ∃ first : UInt32, BigEndian.spell32 first <+: bytes.drop 0 := by
  obtain ⟨piece, hsize, hpiece⟩ := Bytes.exists_prefix_drop (show 0 + 4 ≤ bytes.length by omega)
  exact ⟨_, (Bytes.spell32_ofNat_value hsize).symm ▸ hpiece⟩

/-- The first word of a message tells what stands in front of its call. -/
theorem base_eq_frontSize {first : UInt32} (h : BigEndian.spell32 first <+: bytes.drop 0) :
    base first = frontSize bytes := by
  have hlength : (BigEndian.spell32 first).length = 4 := BigEndian.length_spell _ _
  have hspell := List.prefix_iff_eq_take.mp h
  rw [hlength, List.drop_zero] at hspell
  rw [base_eq, hspell, frontSize]

/-- What is read as a call with a request id is one. -/
theorem carries_of_reads (h : requestId? bytes = some requestId) : Carries bytes requestId := by
  obtain ⟨first, nameSize, hfirst, htype, hname, hsize, hfield, hvalue⟩ :=
    requestId?_eq_some_iff_prefix.mp h
  rw [base_eq_frontSize hfirst] at htype hname hfield hvalue
  have hspell : (BigEndian.spell64 requestId).length = 8 := BigEndian.length_spell _ _
  -- The request id stands last, so there are enough bytes for all pieces in front of it.
  have hend := Bytes.le_length_of_prefix_drop hvalue (List.ne_nil_of_length_eq_add_one hspell)
  rw [hspell] at hend
  unfold requestIdOffset at hvalue hend
  unfold fieldTypeOffset at hfield
  obtain ⟨front, hfrontSize, hfront⟩ :=
    Bytes.exists_prefix_drop (show 0 + frontSize bytes ≤ bytes.length by omega)
  obtain ⟨version, hversionSize, hversion⟩ :=
    Bytes.exists_prefix_drop (show front.length + 3 ≤ bytes.length by omega)
  obtain ⟨name, hnameSize, hnamed⟩ :=
    Bytes.exists_prefix_drop (show front.length + 8 + nameSize.toNat ≤ bytes.length by omega)
  obtain ⟨sequence, hsequenceSize, hsequence⟩ :=
    Bytes.exists_prefix_drop (show front.length + 8 + name.length + 4 ≤ bytes.length by omega)
  obtain ⟨fieldId, hfieldIdSize, hfieldId⟩ :=
    Bytes.exists_prefix_drop (show front.length + 8 + name.length + 5 + 2 ≤ bytes.length by omega)
  have hfieldAt : frontSize bytes + nameSize.toNat + 12 = front.length + 8 + name.length + 4 := by
    omega
  have hvalueAt : frontSize bytes + nameSize.toNat + 15 = front.length + 8 + name.length + 7 := by
    omega
  rw [← hfrontSize] at htype hname
  rw [hfieldAt] at hfield
  rw [hvalueAt] at hvalue
  have hnameLength : UInt32.ofNat name.length = nameSize := by
    rw [hnameSize, UInt32.ofNat_toNat]
  obtain ⟨rest, hrest⟩ := (opening_prefix_iff hversionSize hsequenceSize hfieldIdSize).mpr
    ⟨hfront, hversion, htype, hnameLength ▸ hname, hnamed, hsequence, hfield, hfieldId, hvalue⟩
  have hnameLe : name.length ≤ 256 := by
    rw [hnameSize]
    exact UInt32.le_iff_toNat_le.mp hsize
  exact ⟨front, version, name, sequence, fieldId, rest, hrest.symm, hfrontSize, hversionSize,
    hnameLe, hsequenceSize, hfieldIdSize⟩

/-- Every call with a request id is read as one. -/
theorem reads_of_carries (h : Carries bytes requestId) : requestId? bytes = some requestId := by
  obtain ⟨front, version, name, sequence, fieldId, rest, hbytes, hfrontSize, hversionSize,
    hnameLe, hsequenceSize, hfieldIdSize⟩ := h
  have hopening : opening front version name sequence fieldId requestId <+: bytes.drop 0 :=
    ⟨rest, hbytes.symm⟩
  obtain ⟨-, -, htype, hname, -, -, hfield, -, hvalue⟩ :=
    (opening_prefix_iff hversionSize hsequenceSize hfieldIdSize).mp hopening
  have hend := Bytes.le_length_of_prefix_drop hname
    (List.ne_nil_of_length_eq_add_one (BigEndian.length_spell _ _))
  rw [BigEndian.spell32, BigEndian.length_spell] at hend
  obtain ⟨first, hfirst⟩ := exists_first_word (show 4 ≤ bytes.length by omega)
  have hbase : base first = front.length := (base_eq_frontSize hfirst).trans hfrontSize.symm
  have hnameSize : (UInt32.ofNat name.length).toNat = name.length := by
    apply UInt32.toNat_ofNat_of_lt'
    unfold UInt32.size
    omega
  have hfieldAt : front.length + 8 + name.length + 4 = front.length + name.length + 12 := by omega
  have hvalueAt : front.length + 8 + name.length + 7 = front.length + name.length + 15 := by omega
  rw [hfieldAt] at hfield
  rw [hvalueAt] at hvalue
  refine requestId?_eq_some_iff_prefix.mpr
    ⟨first, UInt32.ofNat name.length, hfirst, ?_, ?_, ?_, ?_, ?_⟩
  · rwa [hbase]
  · rwa [hbase]
  · rw [UInt32.le_iff_toNat_le, hnameSize]
    exact hnameLe
  · rwa [hbase, hnameSize]
  · rwa [hbase, hnameSize]

/-- Four bytes that spell a positive number stand in front of the call. -/
theorem frontSize_framed {frame : List UInt8} (hframe : frame.length = 4)
    (hpositive : 0 < BigEndian.signedValue frame) (rest : List UInt8) :
    frontSize (frame ++ rest) = 4 := by
  rw [frontSize, List.take_left' hframe, if_pos hpositive]

namespace Call

variable (call : Call) (rest : List UInt8)

/-- A call is laid out by the grammar, whatever stands in front of it. -/
theorem append_encode (frame : List UInt8) :
    frame ++ (call.encode ++ rest) =
      opening frame [0x80, 0x01, 0x00] call.name (BigEndian.spell32 call.sequence)
        (BigEndian.spell 2 call.fieldId.toNat) call.requestId ++ rest := by
  simp [encode, opening]

/-- A strict call carries its request id, behind a frame length or not. -/
theorem carries_append_encode {frame : List UInt8}
    (hframe : frame.length = frontSize (frame ++ (call.encode ++ rest))) :
    Carries (frame ++ (call.encode ++ rest)) call.requestId :=
  ⟨frame, _, call.name, _, _, rest, call.append_encode rest frame, hframe, rfl, call.name_le,
    BigEndian.length_spell _ _, BigEndian.length_spell _ _⟩

/-- A call starts with a negative word, so none of its bytes are taken for a frame length. -/
theorem frontSize_encode : frontSize (call.encode ++ rest) = 0 := by
  have hfirst : (call.encode ++ rest).take 4 = [0x80, 0x01, 0x00, 0x01] := by simp [encode]
  rw [frontSize, hfirst]
  decide

end Call

/-- **The request id of a call.**  A request id is read from the messages of the grammar, and
from no others.  So it is read from every strict call with a method name of at most 256 bytes
and a 64-bit integer in its first field, whatever follows, and also with a positive frame length
in front. -/
theorem call_grammar_is_exact (bytes : List UInt8) (requestId : UInt64) :
    (requestId? bytes = some requestId ↔ Carries bytes requestId) ∧
      ∀ (call : Call) (rest : List UInt8),
        requestId? (call.encode ++ rest) = some call.requestId ∧
        ∀ frame : List UInt8, frame.length = 4 → 0 < BigEndian.signedValue frame →
          requestId? (frame ++ (call.encode ++ rest)) = some call.requestId := by
  refine ⟨⟨carries_of_reads, reads_of_carries⟩, fun call rest => ⟨?_, ?_⟩⟩
  · have hnone : ([] : List UInt8).length = frontSize ([] ++ (call.encode ++ rest)) :=
      (call.frontSize_encode rest).symm
    exact reads_of_carries (call.carries_append_encode rest hnone)
  · intro frame hframe hpositive
    have hfour := frontSize_framed hframe hpositive (call.encode ++ rest)
    exact reads_of_carries (call.carries_append_encode rest (hframe.trans hfour.symm))

/-- A call of a method with a name of three bytes. -/
def shortCall : Call where
  name := [0x61, 0x64, 0x64]
  name_le := by decide
  sequence := 7
  fieldId := 1
  requestId := 0x1122334455667788

/-- The call is read behind its frame length, and without one. -/
theorem call_grammar_is_exact_shortCall :
    requestId? (shortCall.encode ++ [0]) = some 0x1122334455667788 ∧
      requestId? ([0, 0, 0, 27] ++ (shortCall.encode ++ [0])) = some 0x1122334455667788 := by
  obtain ⟨-, hcalls⟩ := call_grammar_is_exact [] 0
  obtain ⟨hbare, hframed⟩ := hcalls shortCall [0]
  exact ⟨hbare, hframed [0, 0, 0, 27] rfl (by decide)⟩

end Thrift

end MeshTrace
