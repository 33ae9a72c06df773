import MeshTrace.PathCache
import MeshTrace.Program.State

/-!
# Programs for new connections and inbound messages

A program that runs whenever a socket changes its state registers established
sockets.  A connection that is registered already keeps its socket.

Of an inbound message at first only a part may be addressable.  The stream parser
asks for all of it, and the stream verdict then caches the path of a context frame.
Neither changes the message.
-/

namespace MeshTrace

/-- Registers a socket under a key that must be new.  A present key is noticed before
a full table. -/
def registerNew (sockets : Table ConnectionKey UInt64) (key : ConnectionKey) (socket : UInt64) :
    Except KernelError (Table ConnectionKey UInt64) :=
  if sockets.contains key then .error .present
  else if sockets.isFull then .error .tooBig
  else .ok (sockets.put key socket)

/-- Registers the socket of an event that ends a handshake.  The program always
returns 0. -/
def Kernel.registerSocket (kernel : Kernel) (event : SocketEvent) :
    Nat × Kernel × List KernelRecord :=
  match event.key? with
  | none => (0, kernel, [])
  | some key =>
    match registerNew kernel.sockets key event.socket with
    | .ok sockets => (0, { kernel with sockets }, [])
    | .error error => (0, kernel, [.registrationFailed error])

/-- An inbound message as a program finds it. -/
structure Inbound where
  bytes : List UInt8
  /-- How many bytes are addressable at most; all of them if there is no limit. -/
  window : Option Nat := none
  /-- Why asking for more bytes fails, if it does. -/
  pullError : Option KernelError := none
deriving Repr, DecidableEq

namespace Inbound

/-- The bytes that a program can read. -/
def addressable (inbound : Inbound) : List UInt8 :=
  Message.withinWindow inbound.bytes inbound.window

/-- Makes the first `length` bytes addressable, if that does not fail. -/
def pull (inbound : Inbound) (length : Nat) : Except KernelError Inbound :=
  match inbound.pullError with
  | some error => .error error
  | none => .ok { inbound with window := some (max inbound.addressable.length length) }

/-- Makes all of a message addressable.  The length that it returns is the length of
the whole message also where that fails. -/
def pullAll (inbound : Inbound) : Nat × Inbound × List KernelRecord :=
  let length := inbound.bytes.length
  if inbound.addressable.length < length then
    match inbound.pull length with
    | .ok inbound => (length, inbound, [])
    | .error error => (length, inbound, [.pullFailed length error])
  else (length, inbound, [])

end Inbound

namespace Kernel

/-- Caches the path of a message that starts with a context frame. -/
def cacheReceived (kernel : Kernel) (inbound : Inbound) :
    Verdict × Kernel × List KernelRecord :=
  match Context.read? inbound.addressable with
  | none => (.pass, kernel, [])
  | some (traceId, path) =>
    match kernel.maps.cachePath traceId path with
    | (outcome, maps) =>
      (.pass, { kernel with maps },
        match outcome with
        | .stored (some oldest) => [.evicted traceId oldest]
        | .stored none => []
        | .untracked => [.untracked traceId])

/-- The stream parser and then the verdict on one message. -/
def receive (kernel : Kernel) (inbound : Inbound) :
    Nat × Verdict × Inbound × Kernel × List KernelRecord :=
  match inbound.pullAll with
  | (length, inbound, pulled) =>
    match kernel.cacheReceived inbound with
    | (verdict, kernel, cached) => (length, verdict, inbound, kernel, pulled ++ cached)

end Kernel

end MeshTrace
