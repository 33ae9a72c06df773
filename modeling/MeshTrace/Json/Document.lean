/-!
# Documents and how they are written

A document is what a report consists of: nothing, whole numbers, texts, lists and
records with their fields in order.  It is written without blanks, or over several
lines with two blanks for every level; the empty list and the empty record are closed
on the spot in both layouts.
-/

namespace MeshTrace.Json

/-- A document to be written. -/
inductive Document where
  | null
  | integer (n : Nat)
  | text (s : String)
  | list (items : List Document)
  | record (fields : List (String × Document))

/-- How a document is spread over lines. -/
inductive Layout where
  | compact
  | pretty
deriving Repr, DecidableEq

namespace Layout

/-- What stands before an item at `depth` and before a closing bracket. -/
def gap (depth : Nat) : Layout → List Char
  | compact => []
  | pretty => '\n' :: List.replicate (2 * depth) ' '

/-- What stands between a field's name and its value. -/
def colon : Layout → List Char
  | compact => [':']
  | pretty => [':', ' ']

end Layout

/-- A lowercase hexadecimal digit. -/
def hexDigit (n : Nat) : Char :=
  if n < 10 then Char.ofNat ('0'.toNat + n) else Char.ofNat ('a'.toNat + (n - 10))

/-- A character inside a text.  Quotes, backslashes and the characters below the blank
are escaped. -/
def escape (c : Char) : List Char :=
  if c = '"' then ['\\', '"']
  else if c = '\\' then ['\\', '\\']
  else if c = '\x08' then ['\\', 'b']
  else if c = '\t' then ['\\', 't']
  else if c = '\n' then ['\\', 'n']
  else if c = '\x0c' then ['\\', 'f']
  else if c = '\r' then ['\\', 'r']
  else if c.toNat < 0x20 then
    ['\\', 'u', '0', '0', hexDigit (c.toNat / 16), hexDigit (c.toNat % 16)]
  else [c]

/-- A text between quotes. -/
def quote (s : String) : List Char :=
  '"' :: s.toList.flatMap escape ++ ['"']

/-- The decimal digits of a number. -/
def digits (n : Nat) : List Char :=
  Nat.toDigits 10 n

mutual

/-- Writes a document whose first bracket stands at `depth`. -/
def Document.write (layout : Layout) (depth : Nat) : Document → List Char
  | .null => ['n', 'u', 'l', 'l']
  | .integer n => digits n
  | .text s => quote s
  | .list [] => ['[', ']']
  | .list (item :: rest) =>
    '[' :: layout.gap (depth + 1) ++ item.write layout (depth + 1) ++
      writeItems layout (depth + 1) rest ++ layout.gap depth ++ [']']
  | .record [] => ['\x7b', '\x7d']
  | .record ((name, value) :: rest) =>
    '\x7b' :: layout.gap (depth + 1) ++ quote name ++ layout.colon ++
      value.write layout (depth + 1) ++ writeFields layout (depth + 1) rest ++
      layout.gap depth ++ ['\x7d']

/-- Writes the items of a list that follow another item. -/
def writeItems (layout : Layout) (depth : Nat) : List Document → List Char
  | [] => []
  | item :: rest =>
    ',' :: layout.gap depth ++ item.write layout depth ++ writeItems layout depth rest

/-- Writes the fields of a record that follow another field. -/
def writeFields (layout : Layout) (depth : Nat) : List (String × Document) → List Char
  | [] => []
  | (name, value) :: rest =>
    ',' :: layout.gap depth ++ quote name ++ layout.colon ++ value.write layout depth ++
      writeFields layout depth rest

end

/-- The text of a document. -/
def Document.render (layout : Layout) (document : Document) : String :=
  String.ofList (document.write layout 0)

end MeshTrace.Json
