import MeshTrace.Bytes.Slice

/-!
# Frames

A message starts with frames: three bytes of length, one of type, one of flags and
four that name a stream, then as many bytes as the length says.  Only the first word
matters here, length and type together.  Messages that start with the text of an
older or another protocol have no frames at all.
-/

namespace MeshTrace.Frame

/-- The number of bytes in front of a frame's payload. -/
def headerSize : Nat := 9

/-- The type of a frame that carries header fields. -/
def headersType : UInt8 := 0x01

/-- The type of a frame that carries a trace id and a call path.  No other program
gives this type a meaning. -/
def contextType : UInt8 := 0x0A

/-- `HTTP`, the start of a response without frames. -/
def preambleResponse : UInt32 := 0x48545450

/-- `GET `, the start of a request without frames. -/
def preambleGet : UInt32 := 0x47455420

/-- `POST`, the start of a request without frames. -/
def preamblePost : UInt32 := 0x504F5354

/-- `PRI `, the start of the text that opens a framed connection. -/
def preamblePreface : UInt32 := 0x50524920

/-- Whether a message with this first word starts with text and not with a frame. -/
def isPreamble (word : UInt32) : Bool :=
  word == preambleResponse || word == preambleGet || word == preamblePost ||
    word == preamblePreface

/-- The first word of a frame.  A length of more than three bytes loses its high ones. -/
def word (type : UInt8) (length : Nat) : UInt32 :=
  UInt32.ofNat length <<< 8 ||| type.toUInt32

/-- The type of the frame that starts with `word`. -/
def typeOf (word : UInt32) : UInt8 :=
  (word &&& 0xFF).toUInt8

/-- The payload length of the frame that starts with `word`. -/
def lengthOf (word : UInt32) : UInt32 :=
  word >>> 8

/-- The first word of a message whose first frame has type `type`. -/
def firstWord? (type : UInt8) (bytes : List UInt8) : Option UInt32 :=
  (Bytes.word32? bytes 0).filter fun word => !isPreamble word && typeOf word == type

/-- A frame on stream 1 with the flag that ends a header block. -/
def encode (type : UInt8) (payload : List UInt8) : List UInt8 :=
  BigEndian.spell32 (word type payload.length) ++ [0x04, 0x00, 0x00, 0x00, 0x01] ++ payload

end MeshTrace.Frame
