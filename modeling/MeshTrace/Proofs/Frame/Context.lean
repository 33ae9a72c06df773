import MeshTrace.Frame.Context
import MeshTrace.Proofs.Propagation

/-!
# Reading a context frame back

A receiver reads from a message exactly what the sender put in front of it, whatever
the message went on with (`read?_frame`).  The three parts of the frame are slices of
the message, one behind the other.
-/

namespace MeshTrace

/-- Bytes between others are read back. -/
theorem Bytes.slice?_middle (before piece behind : List UInt8) :
    Bytes.slice? (before ++ piece ++ behind) before.length piece.length = some piece := by
  rw [Bytes.slice?_eq_some_iff]
  refine ⟨by simp, ?_⟩
  rw [List.append_assoc, List.drop_left, List.take_left]

namespace Context

open Propagation

/-- What stands in front of the trace id in every context frame. -/
def frameHead : List UInt8 :=
  BigEndian.spell32 (Frame.word Frame.contextType payloadSize) ++ List.replicate 5 0

theorem length_frameHead : frameHead.length = traceIdOffset := rfl

/-- A frame starts with the first word of context frames. -/
theorem firstWord?_frameHead (rest : List UInt8) :
    Frame.firstWord? Frame.contextType (frameHead ++ rest) =
      some (Frame.word Frame.contextType payloadSize) := by
  have hslice : Bytes.slice? (frameHead ++ rest) 0 4 = Bytes.slice? frameHead 0 4 :=
    Bytes.slice?_append rest (by decide)
  rw [Frame.firstWord?, Bytes.word32?, hslice]
  decide

/-- **A context frame is read back.**  The receiver finds the trace id and the path
that were sent, and does not mind what follows. -/
theorem read?_frame {rawId : List UInt8} (path : Path) (rest : List UInt8)
    (h : rawId.length = traceIdSize) :
    read? (frame rawId path ++ rest) = some (traceIdOf rawId, path) := by
  have hframe : frame rawId path = frameHead ++ rawId ++ path.toBytes := rfl
  have hword : Frame.firstWord? Frame.contextType (frame rawId path ++ rest) =
      some (Frame.word Frame.contextType payloadSize) := by
    rw [hframe, List.append_assoc, List.append_assoc]
    exact firstWord?_frameHead _
  have hid : Bytes.slice? (frame rawId path ++ rest) traceIdOffset traceIdSize = some rawId := by
    have hmiddle := Bytes.slice?_middle frameHead rawId (path.toBytes ++ rest)
    rw [length_frameHead, h] at hmiddle
    rw [hframe, List.append_assoc]
    exact hmiddle
  have hpath : Bytes.slice? (frame rawId path ++ rest) pathOffset pathRecordSize =
      some path.toBytes := by
    have hmiddle := Bytes.slice?_middle (frameHead ++ rawId) path.toBytes rest
    rw [List.length_append, length_frameHead, h, Path.length_toBytes] at hmiddle
    rw [hframe]
    exact hmiddle
  have hword64 : Bytes.word64? (frame rawId path ++ rest) traceIdOffset =
      some (traceIdOf rawId) := by
    rw [Bytes.word64?, show (8 : Nat) = traceIdSize from rfl, hid]
    rfl
  simp only [read?, hword, hword64, hpath, Path.ofBytes?_toBytes, Option.bind_eq_bind,
    Option.bind_some, Option.pure_def]

/-- The byte where the path record starts is the path's hop count. -/
theorem byte?_pathOffset {rawId : List UInt8} (path : Path) (rest : List UInt8)
    (h : rawId.length = traceIdSize) :
    Bytes.byte? (frame rawId path ++ rest) pathOffset = some path.count := by
  have hlength : (frameHead ++ rawId).length = pathOffset := by
    rw [List.length_append, length_frameHead, h]
    rfl
  have hframe : frame rawId path ++ rest = (frameHead ++ rawId) ++ (path.toBytes ++ rest) :=
    List.append_assoc _ _ _
  rw [hframe, Bytes.byte?, ← hlength, List.getElem?_append_right (Nat.le_refl _), Nat.sub_self]
  rfl

end Context

/-- What is read from a message that was sent with a frame is what was sent. -/
theorem Propagation.Reads.read?_nextFrame {maps : Maps} {msg : Message} {offset : Nat}
    {lead : UInt8} {rawId : List UInt8} {service : UInt8}
    (reads : Reads maps msg offset lead rawId service) (rest : List UInt8) :
    Context.read? (nextFrame maps rawId service ++ rest) =
      some (traceIdOf rawId, nextPath maps service (traceIdOf rawId)) :=
  Context.read?_frame _ rest (Bytes.length_of_slice? reads.rawId)

end MeshTrace
