import Std.Data.ExtTreeMap.Lemmas

/-!
# Connections

An established socket is registered under the addresses and port numbers of its two
ends.  The system gives the local number in the machine's own byte order and the remote one
in network order in the upper half of its word; in the key both have the network order
of a 16-bit number.
-/

namespace MeshTrace

/-- The two ends of a connection. -/
structure ConnectionKey where
  sourceAddress : UInt32
  targetAddress : UInt32
  sourcePort : UInt32
  targetPort : UInt32
deriving Repr, DecidableEq

/-- What the system tells about a socket when its state changes. -/
structure SocketEvent where
  /-- The reason why the system calls. -/
  operation : UInt32
  family : UInt32
  localAddress : UInt32
  remoteAddress : UInt32
  localPort : UInt32
  remotePort : UInt32
  /-- The socket itself. -/
  socket : UInt64
deriving Repr, DecidableEq

namespace Connection

/-- The operation of a socket whose own handshake is complete. -/
def activeEstablished : UInt32 := 4

/-- The operation of a socket that answered a handshake. -/
def passiveEstablished : UInt32 := 5

/-- The address family of version 4. -/
def familyInet : UInt32 := 2

/-- The address family of version 6.  Such sockets are registered too, under the
version 4 words of their event. -/
def familyInet6 : UInt32 := 10

/-- Whether an operation ends a handshake. -/
def isEstablished (operation : UInt32) : Bool :=
  operation == activeEstablished || operation == passiveEstablished

/-- Whether sockets of a family are registered. -/
def isSupportedFamily (family : UInt32) : Bool :=
  family == familyInet || family == familyInet6

/-- A 32-bit word with its bytes in reverse order. -/
def swapBytes (word : UInt32) : UInt32 :=
  let middle : UInt32 := 0xFF00
  word <<< 24 ||| (word &&& middle) <<< 8 ||| (word >>> 8 &&& middle) ||| word >>> 24

end Connection

namespace ConnectionKey

/-- The key from the words of a socket event. -/
def ofWords (localAddress remoteAddress localPort remotePort : UInt32) : ConnectionKey where
  sourceAddress := localAddress
  targetAddress := remoteAddress
  sourcePort := Connection.swapBytes localPort >>> 16
  targetPort := remotePort >>> 16

/-- The words of a key, by which keys are ordered. -/
def words (key : ConnectionKey) : List UInt32 :=
  [key.sourceAddress, key.targetAddress, key.sourcePort, key.targetPort]

instance : Ord ConnectionKey := ⟨compareOn words⟩

instance : Std.TransOrd ConnectionKey :=
  inferInstanceAs (Std.TransCmp (compareOn words))

/-- Keys with the same words are the same. -/
theorem words_inj {a b : ConnectionKey} (h : a.words = b.words) : a = b := by
  cases a; cases b
  simpa [words] using h

instance : Std.LawfulEqOrd ConnectionKey where
  compare_self {key} := (Std.compare_self : compare key.words key.words = .eq)
  eq_of_compare {a b} h := words_inj (Std.compare_eq_iff_eq.mp (h : compare a.words b.words = .eq))

end ConnectionKey

/-- The key of a socket event that ends the handshake of a supported connection. -/
def SocketEvent.key? (event : SocketEvent) : Option ConnectionKey :=
  if Connection.isEstablished event.operation && Connection.isSupportedFamily event.family then
    some (.ofWords event.localAddress event.remoteAddress event.localPort event.remotePort)
  else none

end MeshTrace
