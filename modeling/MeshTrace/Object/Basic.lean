import MeshTrace.Object.Hash
import MeshTrace.Path
import Std.Data.ExtTreeMap.Lemmas

/-!
# Program objects

A program object holds named maps and named programs.  A map or a program can be used
only as what it is, and each use may be refused; which uses will be refused is part of
the object.  A program goes from not loaded to loaded to attached.
-/

namespace MeshTrace

/-! Maps -/

/-- The map that holds the registered sockets. -/
structure SocketTable where
  /-- How often its descriptor can still be duplicated; no limit if absent. -/
  remaining : Option Nat := none
deriving Repr, DecidableEq

/-- The map after its descriptor is duplicated once more. -/
def SocketTable.duplicate? (table : SocketTable) : Option SocketTable :=
  match table.remaining with
  | none => some table
  | some 0 => none
  | some (n + 1) => some { table with remaining := some n }

/-- The map that says which programs the others continue with. -/
structure JumpTable where
  /-- The names of the programs that were set, by index. -/
  targets : Std.ExtTreeMap Nat String := ∅
  /-- The indices that cannot be set. -/
  refused : List Nat := []

/-- Lets the jump at `index` lead to `program`. -/
def JumpTable.set (table : JumpTable) (index : Nat) (program : String) :
    Except MapError JumpTable :=
  if table.refused.contains index then .error .update
  else .ok { table with targets := table.targets.insert index program }

/-- A map from indices to numbers. -/
structure ValueArray where
  /-- The number of bytes of a value. -/
  valueSize : Nat := 0
  values : Array Nat := #[]
  /-- The indices that cannot be read. -/
  unreadable : List Nat := []
  /-- The indices that cannot be written. -/
  unwritable : List Nat := []
deriving Repr, DecidableEq

namespace ValueArray

/-- Checks the size of a value against the one that a reader expects. -/
def checkSize (array : ValueArray) (valueSize : Nat) : Except MapError Unit :=
  if array.valueSize ≠ valueSize then .error (.valueSize array.valueSize valueSize)
  else .ok ()

/-- The value at `index`. -/
def get (array : ValueArray) (index : Nat) : Except MapError Nat :=
  match array.values[index]? with
  | some value => if array.unreadable.contains index then .error .lookup else .ok value
  | none => .error .lookup

/-- Writes the value at `index`. -/
def set (array : ValueArray) (index value : Nat) : Except MapError ValueArray :=
  if array.values.size ≤ index || array.unwritable.contains index then .error .update
  else .ok { array with values := array.values.setIfInBounds index value }

end ValueArray

/-- A map of an object, by what it holds. -/
inductive ObjectMap where
  | sockets (table : SocketTable)
  | jumps (table : JumpTable)
  | array (array : ValueArray)
  /-- A hash map with numbers as values. -/
  | numbers (table : HashTable UInt64)
  /-- A hash map with path records as values. -/
  | paths (table : HashTable Path)
  /-- A map that nothing can use. -/
  | other

namespace ObjectMap

/-- The number of bytes of a key or a value of 64 bits. -/
def wordSize : Nat := 8

/-- Uses a map as the one of sockets. -/
def asSockets : ObjectMap → Except MapError SocketTable
  | sockets table => .ok table
  | _ => .error .wrongType

/-- Uses a map as a jump table. -/
def asJumps : ObjectMap → Except MapError JumpTable
  | jumps table => .ok table
  | _ => .error .wrongType

/-- Uses a map as an array of values of a size. -/
def asArray (valueSize : Nat) : ObjectMap → Except MapError ValueArray
  | array values => do
    values.checkSize valueSize
    return values
  | _ => .error .wrongType

/-- Uses a map as a hash map with numbers of 64 bits as values. -/
def asNumbers : ObjectMap → Except MapError (HashTable UInt64)
  | numbers table => do
    table.checkSizes wordSize wordSize
    return table
  | paths table => do
    table.checkSizes wordSize wordSize
    throw .wrongType
  | _ => .error .wrongType

/-- Uses a map as a hash map with path records as values. -/
def asPaths : ObjectMap → Except MapError (HashTable Path)
  | paths table => do
    table.checkSizes wordSize pathRecordSize
    return table
  | numbers table => do
    table.checkSizes wordSize pathRecordSize
    throw .wrongType
  | _ => .error .wrongType

end ObjectMap

/-! Programs -/

/-- What a program is attached to and what it decides about. -/
inductive ProgramKind where
  /-- It sees the sockets of a control group. -/
  | sockets
  /-- It sees the messages that leave through a map of sockets. -/
  | messages
  /-- It sees the streams that come in through a map of sockets. -/
  | streams
  /-- A program that nothing can use. -/
  | other
deriving Repr, DecidableEq

/-- The name of a kind in failures. -/
def ProgramKind.name : ProgramKind → String
  | sockets => "SockOps"
  | messages => "SkMsg"
  | streams => "SkSkb"
  | other => "other"

/-- A program of an object.  A use with a wording is refused with it. -/
structure ObjectProgram where
  kind : ProgramKind
  loaded : Bool := false
  attached : Bool := false
  loading : Option String := none
  attaching : Option String := none
  describing : Option String := none
  duplicating : Option String := none
deriving Repr, DecidableEq

namespace ObjectProgram

/-- Succeeds unless there is a wording to refuse with. -/
def permit : Option String → Except ProgramError Unit
  | none => .ok ()
  | some text => .error (.refused text)

/-- Uses a program as one of `kind`. -/
def checkKind (program : ObjectProgram) (kind : ProgramKind) : Except ProgramError Unit :=
  if program.kind = kind then .ok () else .error .wrongType

/-- Fails unless the program is loaded. -/
def checkLoaded (program : ObjectProgram) : Except ProgramError Unit :=
  if program.loaded then .ok () else .error .notLoaded

/-- Loads the program. -/
def load (program : ObjectProgram) : Except ProgramError ObjectProgram := do
  if program.loaded then throw .alreadyLoaded
  permit program.loading
  return { program with loaded := true }

/-- Attaches the program. -/
def attach (program : ObjectProgram) : Except ProgramError ObjectProgram := do
  program.checkLoaded
  permit program.attaching
  return { program with attached := true }

/-- Gets the program's descriptor. -/
def descriptor (program : ObjectProgram) : Except ProgramError Unit := do
  permit program.describing
  program.checkLoaded

/-- Duplicates the program's descriptor. -/
def duplicate (program : ObjectProgram) : Except ProgramError Unit :=
  permit program.duplicating

end ObjectProgram

/-! Objects -/

/-- The value under a name. -/
def named? {α : Type} (entries : List (String × α)) (name : String) : Option α :=
  (entries.find? (·.1 == name)).map (·.2)

/-- `entries` with another value under a name that is there. -/
def replaceNamed {α : Type} (entries : List (String × α)) (name : String) (value : α) :
    List (String × α) :=
  entries.map fun entry => if entry.1 == name then (name, value) else entry

/-- A program object. -/
structure Object where
  /-- The maps, in the order in which they are pinned. -/
  maps : List (String × ObjectMap) := []
  programs : List (String × ObjectProgram) := []
  /-- Why the object cannot be loaded. -/
  loading : Option String := none
  /-- Why log records of its programs cannot be forwarded. -/
  forwarding : Option String := none

namespace Object

/-- The map with a name. -/
def map? (object : Object) (name : String) : Option ObjectMap := named? object.maps name

/-- The program with a name. -/
def program? (object : Object) (name : String) : Option ObjectProgram :=
  named? object.programs name

/-- Replaces a map. -/
def withMap (object : Object) (name : String) (map : ObjectMap) : Object :=
  { object with maps := replaceNamed object.maps name map }

/-- Takes a map out of the object. -/
def withoutMap (object : Object) (name : String) : Object :=
  { object with maps := object.maps.filter (·.1 != name) }

/-- Replaces a program. -/
def withProgram (object : Object) (name : String) (program : ObjectProgram) : Object :=
  { object with programs := replaceNamed object.programs name program }

end Object

end MeshTrace
