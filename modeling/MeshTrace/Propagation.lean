import MeshTrace.Frame.Context
import MeshTrace.Maps.Basic
import MeshTrace.Message

/-!
# Putting the context frame in front

Once a scan has found the tracing header, the trace id is the first eight bytes of
its value.  The path sent along is the cached path of that trace with this service as
its newest hop, or a path of this service alone.  A cached path is used up by the
message that carries it on; it stays cached if the frame could not be put in front.
-/

namespace MeshTrace

/-- What became of one outbound message. -/
inductive Propagation where
  /-- Nothing was to be sent along. -/
  | pass
  /-- The context frame is in front of the message. -/
  | injected (traceId : UInt64) (hops : UInt8)
  /-- The frame could not be put in front; the message goes out as it was. -/
  | aborted (traceId : UInt64)
deriving Repr, DecidableEq

/-- The outcome of a propagation. -/
def Propagation.text : Propagation → String
  | .pass => "Pass"
  | .injected id hops => s!"Injected \x7b trace_id: {id}, hops: {hops} \x7d"
  | .aborted id => s!"Aborted \x7b trace_id: {id} \x7d"

namespace Propagation

/-- Whether the field with this leading byte spells its name out. -/
def namesItself (lead : UInt8) : Bool :=
  Header.indexOf lead == 0

/-- Where the value of the tracing header at `offset` starts: behind the leading byte
and the value's length byte, and behind the name if it is spelled out. -/
def valueOffset (offset : Nat) (lead : UInt8) : Nat :=
  if namesItself lead then offset + 1 + Header.tracingNameSize + 2 else offset + 2

/-- The offset in the argument slots and the leading byte there. -/
def header? (maps : Maps) (bytes : List UInt8) : Option (Nat × UInt8) :=
  (ArgSlots.bounded? maps.args.offset).bind fun offset =>
    (Bytes.byte? bytes offset.toNat).map fun lead => (offset.toNat, lead)

/-- The path to send along for a trace. -/
def nextPath (maps : Maps) (service : UInt8) (traceId : UInt64) : Path :=
  match maps.paths.get? traceId with
  | some path => path.extend service
  | none => .single service

/-- Puts `frame` in front of a message.  Where the room was made but could not be
written, it is taken away again if that succeeds; the flag says whether the frame
is in place. -/
def inject (msg : Message) (frame : List UInt8) : Bool × Message :=
  match msg.grow? frame.length with
  | none => (false, msg)
  | some grown =>
    match grown.store? 0 frame with
    | some written => (true, written)
    | none => (false, (grown.shrink? frame.length).getD grown)

/-- A new name enters the peer's dynamic table, so that later messages refer to the
header by the first dynamic index. -/
def trackNewName (maps : Maps) (peer : UInt32) (lead : UInt8) : Maps :=
  if namesItself lead then
    { maps with cursors := maps.cursors.insert peer Header.dynamicTableBase }
  else maps

/-- Sends `path` along with the trace whose id is spelled `rawId`. -/
def send (maps : Maps) (msg : Message) (rawId : List UInt8) (service : UInt8) :
    Propagation × Message × Maps :=
  let traceId := UInt64.ofNat (BigEndian.value rawId)
  let path := nextPath maps service traceId
  match inject msg (Context.frame rawId path) with
  | (false, msg) => (.aborted traceId, msg, maps)
  | (true, msg) =>
    (.injected traceId path.count, msg, { maps with paths := maps.paths.erase traceId })

end Propagation

/-- Puts a context frame in front of the message whose tracing header the argument
slots point at. -/
def Maps.propagate (maps : Maps) (peer : UInt32) (msg : Message) :
    Propagation × Message × Maps :=
  match Propagation.header? maps msg.addressable with
  | none => (.pass, msg, maps)
  | some (offset, lead) =>
    let maps := Propagation.trackNewName maps peer lead
    match Bytes.slice? msg.addressable (Propagation.valueOffset offset lead)
        Context.traceIdSize, maps.service.get? with
    | some rawId, some service => Propagation.send maps msg rawId service
    | _, _ => (.pass, msg, maps)

end MeshTrace
