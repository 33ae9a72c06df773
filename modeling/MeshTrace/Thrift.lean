import MeshTrace.Bytes.Slice
import MeshTrace.Maps.Basic

/-!
# Thrift calls

A strict binary call starts with a version word that ends in the message type, then
the method's name behind its length, a sequence number and the first field.  A framed
call has its length in front.  A call whose first field is a 64-bit integer carries
its request id there.

Calls are numbered by a counter of the shared maps, and the request id is remembered
under the number.
-/

namespace MeshTrace.Thrift

/-- The message type of a call. -/
def callType : UInt8 := 0x01

/-- The type of a field that holds a 64-bit integer. -/
def int64Type : UInt8 := 0x0A

/-- The longest method name that is looked behind. -/
def maxNameSize : UInt32 := 256

/-- How far behind the name's length field the first field's type lies, not counting
the name. -/
def fieldTypeOffset : Nat := 12

/-- How far behind the name's length field the first field's value lies, not counting
the name. -/
def requestIdOffset : Nat := 15

/-- Where the version word starts: behind the frame length if the first word is
positive when read as a signed number. -/
def base (firstWord : UInt32) : Nat :=
  if firstWord ≠ 0 ∧ firstWord < 0x80000000 then 4 else 0

/-- The request id that a message carries, if it is a call with one. -/
def requestId? (bytes : List UInt8) : Option UInt64 := do
  let base := base (← Bytes.word32? bytes 0)
  let type ← Bytes.byte? bytes (base + 3)
  guard (type = callType)
  let nameSize ← Bytes.word32? bytes (base + 4)
  guard (nameSize ≤ maxNameSize)
  let fieldType ← Bytes.byte? bytes (base + nameSize.toNat + fieldTypeOffset)
  guard (fieldType = int64Type)
  Bytes.word64? bytes (base + nameSize.toNat + requestIdOffset)

/-- What became of one outbound message. -/
inductive Outcome where
  /-- It is no call that carries a request id. -/
  | pass
  /-- The request id was remembered under the call's number. -/
  | recorded (sequence requestId : UInt64)
  /-- The counter could not be read. -/
  | noCounter (requestId : UInt64)
deriving Repr, DecidableEq

/-- The outcome of looking for a Thrift call. -/
def Outcome.text : Outcome → String
  | .pass => "Pass"
  | .recorded sequence id => s!"Recorded \x7b sequence: {sequence}, request_id: {id} \x7d"
  | .noCounter id => s!"NoCounter \x7b request_id: {id} \x7d"

end MeshTrace.Thrift

namespace MeshTrace

/-- Numbers a call and remembers its request id. -/
def Maps.correlate (maps : Maps) (bytes : List UInt8) : Thrift.Outcome × Maps :=
  match Thrift.requestId? bytes with
  | none => (.pass, maps)
  | some requestId =>
    match maps.counter.get? with
    | none => (.noCounter requestId, maps)
    | some sequence =>
      (.recorded sequence requestId,
        { maps with
          correlations := maps.correlations.insert sequence requestId
          counter := maps.counter.set (sequence + 1) })

end MeshTrace
