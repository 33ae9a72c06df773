import MeshTrace.Json.Access
import MeshTrace.Object.Basic

/-!
# Described objects

An object can be described by a record: its maps and its programs as lists of name, kind
and details, and why it cannot be loaded or its log records not be forwarded.  Numbers
of 64 bits are written as texts, path records as hexadecimal texts without the zeros at
their end.  Details that are left out or not understood have their defaults, and a kind
that is not known is one that nothing can use.
-/

namespace MeshTrace

namespace Json.Value

/-- The value of a field, null if there is none. -/
def part (v : Value) (name : String) : Value :=
  match v with
  | .record fields => (under fields name).headD .null
  | _ => .null

/-- The items of a list, none of anything else. -/
def items : Value → List Value
  | .list items => items
  | _ => []

/-- A whole number, also if it is written as a text. -/
def natural? : Value → Option Nat
  | .number n => n
  | .text (some s) =>
    if s.isEmpty || !s.toList.all Char.isDigit then none else some (decimal s.toList)
  | _ => none

/-- A whole number, 0 if it is none. -/
def natural (v : Value) : Nat := (natural? v).getD 0

/-- A number of 64 bits. -/
def word (v : Value) : UInt64 := UInt64.ofNat v.natural

/-- The bytes that pairs of hexadecimal digits stand for. -/
def hexBytes? : List Char → Option (List UInt8)
  | [] => some []
  | high :: low :: rest => do
    let byte := (← hexValue? high) * 16 + (← hexValue? low)
    return UInt8.ofNat byte :: (← hexBytes? rest)
  | [_] => none

/-- A path record. -/
def path (v : Value) : Path :=
  .ofLeadingBytes (((text? v).bind (hexBytes? ·.toList)).getD [])

/-- A pair of a key and what `value` makes of the other item. -/
def entry {α : Type} (value : Value → α) (v : Value) : UInt64 × α :=
  (word (v.items.getD 0 .null), value (v.items.getD 1 .null))

end Json.Value

namespace Object

open Json

/-- A described hash map. -/
def hashTable {α : Type} (value : Value → α) (details : Value) : HashTable α where
  keySize := (details.part "key").natural
  valueSize := (details.part "value").natural
  arriving := (details.part "batches").items.map fun batch => batch.items.map (Value.entry value)
  failingWalks := (details.part "iter_err").items.map Value.natural
  lasting := (details.part "remove_err").items.map Value.word

/-- A described map. -/
def describedMap (kind : String) (details : Value) : ObjectMap :=
  if kind = "sockhash" then .sockets { remaining := (details.part "clones").natural? }
  else if kind = "progarray" then
    .jumps { refused := (details.part "set_err").items.map Value.natural }
  else if kind = "array" then
    .array {
      valueSize := (details.part "value").natural
      values := ((details.part "values").items.map Value.natural).toArray
      unreadable := (details.part "get_err").items.map Value.natural
      unwritable := (details.part "set_err").items.map Value.natural }
  else if kind = "hash" then
    if (details.part "value").natural = pathRecordSize then
      .paths (hashTable Value.path details)
    else .numbers (hashTable Value.word details)
  else .other

/-- A kind of program by its name in a description. -/
def describedKind (kind : String) : ProgramKind :=
  if kind = "sock_ops" then .sockets
  else if kind = "sk_msg" then .messages
  else if kind = "sk_skb" then .streams
  else .other

/-- A described program. -/
def describedProgram (kind : String) (details : Value) : ObjectProgram where
  kind := describedKind kind
  loading := (details.part "load_err").text?
  attaching := (details.part "attach_err").text?
  describing := (details.part "fd_err").text?
  duplicating := (details.part "clone_err").text?

/-- A named part of a description.  Its kind and details may be left out. -/
def describedPart {α : Type} (read : String → Value → α) (v : Value) : Option (String × α) :=
  match v.items with
  | .text (some name) :: rest =>
    some (name, read ((rest.getD 0 .null).text?.getD "") (rest.getD 1 .null))
  | _ => none

/-- The object that a text describes, if it describes one. -/
def ofDescription? (text : String) : Option Object := do
  let v ← Value.ofText? text
  match v with
  | .record _ =>
    return {
      maps := (v.part "maps").items.filterMap (describedPart describedMap)
      programs := (v.part "programs").items.filterMap (describedPart describedProgram)
      loading := (v.part "load_err").text?
      forwarding := (v.part "log_err").text? }
  | _ => none

end Object

end MeshTrace
