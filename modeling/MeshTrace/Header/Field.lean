/-!
# Header fields

A header block is a list of fields.  The leading byte of a field says whether its
name is spelled out, taken from a table, or whether the whole field is.  Lengths are
single bytes whose low seven bits count; the top bit marks compressed text.
`Field` is the grammar of what a scan understands and `Field.encode` its bytes.
-/

namespace MeshTrace

/-- How the rest of a field is laid out. -/
inductive Representation where
  /-- `1xxxxxxx`: name and value both come from the tables. -/
  | indexed
  /-- `001xxxxx`: no field, but a new size of the table. -/
  | sizeUpdate
  /-- `0x00`, `0x10` or `0x40`: name and value follow. -/
  | newName
  /-- Any other leading byte: the name comes from the tables, the value follows. -/
  | indexedName
deriving Repr, DecidableEq

/-- The layout that a leading byte announces. -/
def Representation.ofLead (lead : UInt8) : Representation :=
  if lead &&& 0x80 = 0x80 then .indexed
  else if lead &&& 0xE0 = 0x20 then .sizeUpdate
  else if lead = 0x00 ∨ lead = 0x10 ∨ lead = 0x40 then .newName
  else .indexedName

namespace Header

/-- `01xxxxxx`: the field enters the dynamic table. -/
def entersTable (lead : UInt8) : Bool :=
  lead &&& 0xC0 == 0x40

/-- The number that a length byte stands for. -/
def lengthOf (lengthByte : UInt8) : Nat :=
  (lengthByte &&& 0x7F).toNat

/-- The table index in the low bits of a leading byte. -/
def indexOf (lead : UInt8) : UInt8 :=
  lead &&& 0x3F

/-- The compressed spelling of the tracing header's name, `uber-trace-id`. -/
def tracingName : List UInt8 :=
  [0xb6, 0x32, 0xd8, 0xb2, 0x6c, 0x19, 0x0a, 0xb1, 0xa4]

/-- The length of the tracing header's name. -/
def tracingNameSize : Nat := 9

/-- The first index of the dynamic table. -/
def dynamicTableBase : UInt8 := 62

end Header

/-- A header field together with its length bytes. -/
inductive Field where
  | indexed (lead : UInt8)
  | sizeUpdate (lead : UInt8)
  | newName (lead nameLength : UInt8) (name : List UInt8) (valueLength : UInt8)
      (value : List UInt8)
  | indexedName (lead valueLength : UInt8) (value : List UInt8)
deriving Repr, DecidableEq

namespace Field

/-- The bytes of a field. -/
def encode : Field → List UInt8
  | indexed lead => [lead]
  | sizeUpdate lead => [lead]
  | newName lead nameLength name valueLength value =>
    lead :: nameLength :: name ++ valueLength :: value
  | indexedName lead valueLength value => lead :: valueLength :: value

/-- The bytes of a header block. -/
def encodeAll (fields : List Field) : List UInt8 :=
  fields.flatMap encode

/-- The leading byte. -/
def lead : Field → UInt8
  | indexed lead | sizeUpdate lead | newName lead .. | indexedName lead .. => lead

/-- The layout that a field has. -/
def representation : Field → Representation
  | indexed _ => .indexed
  | sizeUpdate _ => .sizeUpdate
  | newName .. => .newName
  | indexedName .. => .indexedName

/-- The leading byte announces the field's layout, and the length bytes count the
name and the value. -/
def WellFormed (field : Field) : Prop :=
  Representation.ofLead field.lead = field.representation ∧
    match field with
    | newName _ nameLength name valueLength value =>
      Header.lengthOf nameLength = name.length ∧ Header.lengthOf valueLength = value.length
    | indexedName _ valueLength value => Header.lengthOf valueLength = value.length
    | _ => True

instance (field : Field) : Decidable field.WellFormed := by
  unfold WellFormed
  cases field <;> infer_instance

/-- A field with the tracing header's name, that enters the dynamic table. -/
def tracing (value : List UInt8) : Field :=
  newName 0x40 (0x80 ||| UInt8.ofNat Header.tracingNameSize) Header.tracingName
    (UInt8.ofNat value.length) value

/-- A field with a name of its own, that enters the dynamic table.  Length bytes keep
the low bits of the lengths. -/
def literal (name value : List UInt8) : Field :=
  newName 0x40 (UInt8.ofNat name.length) name (UInt8.ofNat value.length) value

/-- A field that takes its name from table entry `index` and enters the table. -/
def reference (index : UInt8) (value : List UInt8) : Field :=
  indexedName (0x40 ||| (index &&& 0x3F)) (UInt8.ofNat value.length) value

end Field

end MeshTrace
