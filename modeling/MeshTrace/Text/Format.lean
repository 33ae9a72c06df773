import MeshTrace.Text.Unmarked

/-!
# Parts of texts

Numbers are written in decimal, or in hexadecimal with lowercase digits.

In log records and errors, names of files and groups stand between quotes, with
everything escaped that could not be told from the text around it or could not be
seen.  A single quote stays as it is.

Where a text of several lines stands behind something else, its further lines are
indented, so that it can be told from what follows it.
-/

namespace MeshTrace.Text

/-- `n` in hexadecimal, without leading zeros. -/
def hex (n : Nat) : String :=
  String.ofList (Nat.toDigits 16 n)

/-- `text` filled up with `fill` on the left. -/
def padLeft (width : Nat) (fill : Char) (text : String) : String :=
  String.ofList (List.replicate (width - text.length) fill) ++ text

/-- `text` filled up with blanks on the right. -/
def padRight (width : Nat) (text : String) : String :=
  text ++ String.ofList (List.replicate (width - text.length) ' ')

/-- A trace id as tracing tools print it: sixteen hexadecimal digits. -/
def traceId (id : UInt64) : String :=
  padLeft 16 '0' (hex id.toNat)

/-- A number that can be absent. -/
def optional : Option UInt64 → String
  | none => "None"
  | some n => s!"Some({n})"

/-- A character inside a quoted text. -/
def escape (c : Char) : List Char :=
  if c = '\x00' then ['\\', '0']
  else if c = '\t' then ['\\', 't']
  else if c = '\r' then ['\\', 'r']
  else if c = '\n' then ['\\', 'n']
  else if c = '"' then ['\\', '"']
  else if c = '\\' then ['\\', '\\']
  else if isUnmarked c then
    ['\\', 'u', '\x7b'] ++ (hex c.toNat).toList ++ ['\x7d']
  else [c]

/-- A text between quotes. -/
def quoted (text : String) : String :=
  String.ofList ('"' :: text.toList.flatMap escape ++ ['"'])

/-- A text whose lines after the first are indented. -/
def hanging (indent : String) (text : String) : String :=
  String.ofList (text.toList.flatMap fun c => if c = '\n' then '\n' :: indent.toList else [c])

end MeshTrace.Text
