/-!
# Values and how they are read

A text is read into a value that keeps everything a later look at it can depend on:
all fields of a record in order, also repeated ones; of a number only whether it is a
plain whole number, and which; of a text only what it spells, if its escapes spell
anything.  Brackets nest as deep as the text likes.
-/

namespace MeshTrace.Json

/-- What a text can spell. -/
inductive Value where
  | null
  | bool (b : Bool)
  /-- A number; absent if it has a sign, a fraction or an exponent. -/
  | number (n : Option Nat)
  /-- A text; absent if an escape names half of a surrogate pair without the other. -/
  | text (s : Option String)
  | list (items : List Value)
  | record (fields : List (Option String × Value))

/-- The characters that may stand between the parts of a value. -/
def isBlank (c : Char) : Bool :=
  c == ' ' || c == '\n' || c == '\t' || c == '\r'

/-- The input behind leading blanks. -/
def skipBlanks (input : List Char) : List Char :=
  input.dropWhile isBlank

/-! Texts -/

/-- A part of a text: a character, or a 16-bit unit from an escape. -/
inductive Piece where
  | char (c : Char)
  | unit (n : Nat)
deriving Repr, DecidableEq

/-- The character that a one-letter escape stands for. -/
def unescape? (c : Char) : Option Char :=
  if c = '"' then some '"'
  else if c = '\\' then some '\\'
  else if c = '/' then some '/'
  else if c = 'b' then some '\x08'
  else if c = 'f' then some '\x0c'
  else if c = 'n' then some '\n'
  else if c = 'r' then some '\r'
  else if c = 't' then some '\t'
  else none

/-- The number that a hexadecimal digit stands for. -/
def hexValue? (c : Char) : Option Nat :=
  if '0' ≤ c ∧ c ≤ '9' then some (c.toNat - '0'.toNat)
  else if 'a' ≤ c ∧ c ≤ 'f' then some (c.toNat - 'a'.toNat + 10)
  else if 'A' ≤ c ∧ c ≤ 'F' then some (c.toNat - 'A'.toNat + 10)
  else none

/-- The unit that four hexadecimal digits stand for. -/
def unit? (a b c d : Char) : Option Nat := do
  return ((← hexValue? a) * 16 + (← hexValue? b)) * 256 +
    ((← hexValue? c) * 16 + (← hexValue? d))

/-- Reads the parts of a text up to its closing quote. -/
def readPieces : List Char → Option (List Piece × List Char)
  | [] => none
  | '"' :: rest => some ([], rest)
  | '\\' :: 'u' :: a :: b :: c :: d :: rest => do
    let n ← unit? a b c d
    let (pieces, rest) ← readPieces rest
    return (.unit n :: pieces, rest)
  | '\\' :: c :: rest => do
    let c ← unescape? c
    let (pieces, rest) ← readPieces rest
    return (.char c :: pieces, rest)
  | c :: rest =>
    if c = '\\' ∨ c.toNat < 0x20 then none
    else do
      let (pieces, rest) ← readPieces rest
      return (.char c :: pieces, rest)

/-- The characters that the parts of a text spell.  A leading surrogate must be
followed by a trailing one. -/
def spell? : List Piece → Option (List Char)
  | [] => some []
  | .char c :: rest => (spell? rest).map (c :: ·)
  | .unit high :: rest =>
    if high < 0xD800 ∨ 0xDFFF < high then (spell? rest).map (Char.ofNat high :: ·)
    else
      match rest with
      | .unit low :: rest =>
        if high < 0xDC00 ∧ 0xDC00 ≤ low ∧ low ≤ 0xDFFF then
          (spell? rest).map
            (Char.ofNat (0x10000 + (high - 0xD800) * 0x400 + (low - 0xDC00)) :: ·)
        else none
      | _ => none

/-- Reads a text behind its opening quote. -/
def readText (input : List Char) : Option (Option String × List Char) :=
  (readPieces input).map fun (pieces, rest) => ((spell? pieces).map String.ofList, rest)

/-! Numbers -/

/-- The number that decimal digits stand for. -/
def decimal (digits : List Char) : Nat :=
  digits.foldl (fun total c => 10 * total + (c.toNat - '0'.toNat)) 0

/-- Reads digits, at least one. -/
def readDigits (input : List Char) : Option (List Char × List Char) :=
  match input.takeWhile Char.isDigit with
  | [] => none
  | digits => some (digits, input.dropWhile Char.isDigit)

/-- Reads digits that do not start with a zero, unless it stands alone. -/
def readInteger (input : List Char) : Option (Nat × List Char) :=
  match readDigits input with
  | some ('0' :: _ :: _, _) => none
  | some (digits, rest) => some (decimal digits, rest)
  | none => none

/-- Reads a fraction, if there is one, and says whether there was. -/
def readFraction : List Char → Option (Bool × List Char)
  | '.' :: rest => (readDigits rest).map fun (_, rest) => (true, rest)
  | input => some (false, input)

/-- Reads an exponent, if there is one, and says whether there was. -/
def readExponent : List Char → Option (Bool × List Char)
  | e :: rest =>
    if e = 'e' ∨ e = 'E' then
      let unsigned := match rest with
        | sign :: digits => if sign = '+' ∨ sign = '-' then digits else rest
        | [] => rest
      (readDigits unsigned).map fun (_, rest) => (true, rest)
    else some (false, e :: rest)
  | [] => some (false, [])

/-- Reads a number. -/
def readNumber (input : List Char) : Option (Option Nat × List Char) := do
  let (negative, unsigned) := match input with
    | '-' :: rest => (true, rest)
    | input => (false, input)
  let (n, rest) ← readInteger unsigned
  let (fraction, rest) ← readFraction rest
  let (exponent, rest) ← readExponent rest
  return (if negative || fraction || exponent then none else some n, rest)

/-! Lists and records -/

/-- Reads items with commas between them up to `close`, at most `fuel` of them. -/
def readItems {α : Type} (close : Char) (item : List Char → Option (α × List Char)) :
    (fuel : Nat) → List Char → Option (List α × List Char)
  | 0, _ => none
  | fuel + 1, input => do
    let (x, rest) ← item input
    match skipBlanks rest with
    | c :: rest =>
      if c = close then return ([x], rest)
      else if c = ',' then
        let (xs, rest) ← readItems close item fuel rest
        return (x :: xs, rest)
      else none
    | [] => none

/-- Reads what stands between brackets, behind the opening one. -/
def readBracketed {α : Type} (close : Char) (item : List Char → Option (α × List Char))
    (input : List Char) : Option (List α × List Char) :=
  match skipBlanks input with
  | c :: rest =>
    if c = close then some ([], rest) else readItems close item (c :: rest).length (c :: rest)
  | [] => none

/-- Reads a field: its name, a colon and its value. -/
def readField (value : List Char → Option (Value × List Char)) (input : List Char) :
    Option ((Option String × Value) × List Char) :=
  match skipBlanks input with
  | '"' :: rest => do
    let (name, rest) ← readText rest
    match skipBlanks rest with
    | ':' :: rest =>
      let (v, rest) ← value rest
      return ((name, v), rest)
    | _ => none
  | _ => none

/-- Reads a value in which brackets nest at most `depth` deep. -/
def readValue : (depth : Nat) → List Char → Option (Value × List Char)
  | depth, input =>
    match skipBlanks input with
    | 'n' :: 'u' :: 'l' :: 'l' :: rest => some (.null, rest)
    | 't' :: 'r' :: 'u' :: 'e' :: rest => some (.bool true, rest)
    | 'f' :: 'a' :: 'l' :: 's' :: 'e' :: rest => some (.bool false, rest)
    | '"' :: rest => (readText rest).map fun (s, rest) => (.text s, rest)
    | '[' :: rest =>
      match depth with
      | 0 => none
      | depth + 1 =>
        (readBracketed ']' (readValue depth) rest).map fun (items, rest) => (.list items, rest)
    | '\x7b' :: rest =>
      match depth with
      | 0 => none
      | depth + 1 =>
        (readBracketed '\x7d' (readField (readValue depth)) rest).map fun (fields, rest) =>
          (.record fields, rest)
    | input => (readNumber input).map fun (n, rest) => (.number n, rest)

/-- The value that a whole text spells.  Its brackets cannot nest deeper than it is long. -/
def Value.ofText? (text : String) : Option Value := do
  let (value, rest) ← readValue text.length text.toList
  guard (skipBlanks rest).isEmpty
  return value

end MeshTrace.Json
