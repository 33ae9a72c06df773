import MeshTrace.Frame.Basic
import MeshTrace.Header.Field

/-!
# Scanning a header block

A scan looks for the tracing header among the fields of a HEADERS frame.  One pass
examines at most `fieldsPerPass` fields; a pass that runs out hands a `Continuation`
to the next.  The header is recognised by its name, or by a table index that equals
the peer's cursor.  The cursor follows the place of the tracing header in the peer's
dynamic table: each new name that is passed moves it on by one, and it stops at 255
rather than fall back among the fixed entries.  A peer without a cursor gets none
from a scan.

`fields_add` says that a pass over `m + n` fields is a pass over `m` fields followed,
if it ran out, by one over `n`.
-/

namespace MeshTrace

/-- Where a later pass goes on. -/
structure Continuation where
  /-- The offset of the next field. -/
  offset : UInt32
  /-- The payload length of the HEADERS frame. -/
  frameLength : UInt32
deriving Repr, DecidableEq

/-- The result of one pass. -/
inductive Scan where
  /-- There is nothing to do for this message. -/
  | pass
  /-- The tracing header starts at `offset`. -/
  | found (offset : UInt32)
  /-- The pass ran out of fields. -/
  | exhausted (rest : Continuation)
deriving Repr, DecidableEq

/-- The outcome of a scan. -/
def Scan.text : Scan → String
  | .pass => "Pass"
  | .found offset => s!"Found \x7b offset: {offset} \x7d"
  | .exhausted rest =>
    s!"Exhausted(Continuation \x7b offset: {rest.offset}, frame_len: {rest.frameLength} \x7d)"

namespace Header

/-- The number of fields that one pass examines. -/
def fieldsPerPass : Nat := 6

/-- The largest offset or frame length that a pass accepts from an earlier program. -/
def maxOffset : UInt32 := 2048

/-- The cursor after one more new name. -/
def bump (cursor : UInt8) : UInt8 :=
  if cursor = 255 then 255 else cursor + 1

/-- What examining one field leads to. -/
inductive Step where
  /-- A read left the addressable bytes. -/
  | unreadable
  /-- The field is the tracing header. -/
  | tracing
  /-- The next field starts at `offset`. -/
  | next (offset : Nat)
deriving Repr, DecidableEq

/-- Skips the value whose length byte is the byte after `before`. -/
def skipValue (bytes : List UInt8) (before : Nat) : Step :=
  match Bytes.byte? bytes (before + 1) with
  | none => .unreadable
  | some lengthByte => .next (before + 2 + lengthOf lengthByte)

/-- Whether the new name of `nameLength` bytes in the field at `offset` is the tracing
header's, if that can be read.  Only a field that enters the table is compared. -/
def spellsTracingName? (bytes : List UInt8) (offset : Nat) (lead : UInt8) (nameLength : Nat) :
    Option Bool :=
  if nameLength = tracingNameSize ∧ entersTable lead then
    (Bytes.slice? bytes (offset + 2) tracingNameSize).map (· == tracingName)
  else some false

/-- Examines the field at `offset`; also gives the cursor afterwards. -/
def step (bytes : List UInt8) (cursor : Option UInt8) (offset : Nat) : Step × Option UInt8 :=
  match Bytes.byte? bytes offset with
  | none => (.unreadable, cursor)
  | some lead =>
    match Representation.ofLead lead with
    | .indexed | .sizeUpdate => (.next (offset + 1), cursor)
    | .newName =>
      match Bytes.byte? bytes (offset + 1) with
      | none => (.unreadable, cursor)
      | some lengthByte =>
        match spellsTracingName? bytes offset lead (lengthOf lengthByte) with
        | none => (.unreadable, cursor)
        | some true => (.tracing, cursor)
        | some false => (skipValue bytes (offset + 1 + lengthOf lengthByte), cursor.map bump)
    | .indexedName =>
      if entersTable lead ∧ cursor = some (indexOf lead) then (.tracing, cursor)
      else (skipValue bytes offset, cursor)

/-- The result of examining a number of fields, with offsets as natural numbers. -/
inductive Outcome where
  | pass
  | found (offset : Nat)
  | exhausted (offset : Nat)
deriving Repr, DecidableEq

/-- Examines up to `budget` fields from `offset` on.  A field may start at `frameEnd`
but not behind it. -/
def fields (bytes : List UInt8) (frameEnd : Nat) :
    (budget : Nat) → (cursor : Option UInt8) → (offset : Nat) → Outcome × Option UInt8
  | 0, cursor, offset => (.exhausted offset, cursor)
  | budget + 1, cursor, offset =>
    if offset > frameEnd then (.pass, cursor)
    else
      match step bytes cursor offset with
      | (.unreadable, cursor) => (.pass, cursor)
      | (.tracing, cursor) => (.found offset, cursor)
      | (.next offset, cursor) => fields bytes frameEnd budget cursor offset

/-- One pass from a continuation on. -/
def scan (bytes : List UInt8) (cursor : Option UInt8) (start : Continuation) :
    Scan × Option UInt8 :=
  match fields bytes (Frame.headerSize + start.frameLength.toNat) fieldsPerPass cursor
      start.offset.toNat with
  | (.pass, cursor) => (.pass, cursor)
  | (.found offset, cursor) => (.found (UInt32.ofNat offset), cursor)
  | (.exhausted offset, cursor) =>
    (.exhausted ⟨UInt32.ofNat offset, start.frameLength⟩, cursor)

/-- The first pass over a message: from the first field of the HEADERS frame that it
starts with. -/
def locate (bytes : List UInt8) (cursor : Option UInt8) : Scan × Option UInt8 :=
  match Frame.firstWord? Frame.headersType bytes with
  | none => (.pass, cursor)
  | some word => scan bytes cursor ⟨UInt32.ofNat Frame.headerSize, Frame.lengthOf word⟩

/-- The second pass, from what the first one left.  Running out here gives up. -/
def resume (bytes : List UInt8) (cursor : Option UInt8) (start : Option Continuation) :
    Scan × Option UInt8 :=
  match start with
  | none => (.pass, cursor)
  | some start =>
    match scan bytes cursor start with
    | (.exhausted _, cursor) => (.pass, cursor)
    | result => result

/-- A pass over `m + n` fields is one over `m`, followed by one over `n` where the
first ran out. -/
theorem fields_add (bytes : List UInt8) (frameEnd m n : Nat) (cursor : Option UInt8)
    (offset : Nat) :
    fields bytes frameEnd (m + n) cursor offset =
      match fields bytes frameEnd m cursor offset with
      | (.exhausted offset, cursor) => fields bytes frameEnd n cursor offset
      | result => result := by
  induction m generalizing cursor offset with
  | zero => simp [fields]
  | succ m ih =>
    rw [Nat.succ_add]
    simp only [fields]
    split
    · rfl
    · split <;> simp_all

end Header

end MeshTrace
