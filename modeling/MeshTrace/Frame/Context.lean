import MeshTrace.Frame.Basic
import MeshTrace.Path

/-!
# Context frames

A context frame goes in front of an outbound message and tells the receiver the
trace id and the call path so far.  Its payload is the eight bytes of the id, as they
stood in the message, and the path record.
-/

namespace MeshTrace.Context

/-- The number of bytes of a trace id. -/
def traceIdSize : Nat := 8

/-- The payload length of a context frame. -/
def payloadSize : Nat := traceIdSize + pathRecordSize

/-- The length of a whole context frame. -/
def frameSize : Nat := Frame.headerSize + payloadSize

/-- Where the trace id starts. -/
def traceIdOffset : Nat := Frame.headerSize

/-- Where the path record starts. -/
def pathOffset : Nat := Frame.headerSize + traceIdSize

/-- The context frame for the trace whose id is spelled `rawId`. -/
def frame (rawId : List UInt8) (path : Path) : List UInt8 :=
  BigEndian.spell32 (Frame.word Frame.contextType payloadSize) ++ List.replicate 5 0 ++
    rawId ++ path.toBytes

/-- The trace id and the path of the context frame that a message starts with. -/
def read? (bytes : List UInt8) : Option (UInt64 × Path) := do
  let _ ← Frame.firstWord? Frame.contextType bytes
  let traceId ← Bytes.word64? bytes traceIdOffset
  let record ← Bytes.slice? bytes pathOffset pathRecordSize
  let path ← Path.ofBytes? record
  return (traceId, path)

/-- A frame for an id of eight bytes has the length of a context frame. -/
theorem length_frame {rawId : List UInt8} (path : Path) (h : rawId.length = traceIdSize) :
    (frame rawId path).length = frameSize := by
  simp [frame, BigEndian.spell32, h, frameSize, payloadSize, Frame.headerSize]
  omega

end MeshTrace.Context
