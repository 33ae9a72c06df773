import MeshTrace.Json.Value

/-!
# Looking into values

A value is looked into by asking for what is expected of it.  What is not as expected
is absent; nothing is guessed.
-/

namespace MeshTrace.Json.Value

/-- The values under `name`, in order. -/
def under (fields : List (Option String × Value)) (name : String) : List Value :=
  (fields.filter fun field => field.1 == some name).map (·.2)

/-- The value under `name`, if there is one; fails if there are several. -/
def single? (fields : List (Option String × Value)) (name : String) : Option (Option Value) :=
  match under fields name with
  | [] => some none
  | [value] => some (some value)
  | _ => none

/-- The named parts of a value, in the order of the names: of a record those that are
there, of a list all of them. -/
def parts? (names : List String) : Value → Option (List (Option Value))
  | .record fields => do
    guard (fields.all fun field => field.1.isSome)
    names.mapM (single? fields)
  | .list items => if items.length = names.length then some (items.map some) else none
  | _ => none

/-- A whole number up to `limit`. -/
def integer? (limit : Nat) : Value → Option Nat
  | .number (some n) => if n ≤ limit then some n else none
  | _ => none

/-- A number of 64 bits. -/
def u64? (v : Value) : Option UInt64 := (integer? (UInt64.size - 1) v).map UInt64.ofNat

/-- A number of 32 bits. -/
def u32? (v : Value) : Option UInt32 := (integer? (UInt32.size - 1) v).map UInt32.ofNat

/-- A number of 8 bits. -/
def u8? (v : Value) : Option UInt8 := (integer? (UInt8.size - 1) v).map UInt8.ofNat

/-- A text. -/
def text? : Value → Option String
  | .text s => s
  | _ => none

/-- A list whose items can all be read. -/
def list? {α : Type} (item : Value → Option α) : Value → Option (List α)
  | .list items => items.mapM item
  | _ => none

/-- A part that may be left out or null. -/
def optional? {α : Type} (read : Value → Option α) : Option Value → Option (Option α)
  | none | some .null => some none
  | some v => (read v).map some

end MeshTrace.Json.Value
