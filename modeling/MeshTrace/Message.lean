import MeshTrace.Bytes.Slice

/-!
# Messages

A message has bytes and a window: a program can address only the first bytes of a
message whose data lies in several pieces.  Putting bytes in front of a message may
fail, and so may taking them away again; after a success the window can be another one.
-/

namespace MeshTrace

/-- An outbound message as a program finds it. -/
structure Message where
  /-- Everything that will be sent. -/
  bytes : List UInt8
  /-- How many bytes are addressable at most; all of them if there is no limit. -/
  window : Option Nat := none
  /-- The limit that holds once bytes were put in front or taken away. -/
  reshapedWindow : Option Nat := none
  canGrow : Bool := true
  canShrink : Bool := true
deriving Repr, DecidableEq

namespace Message

/-- The first bytes of a message under a limit. -/
def withinWindow (bytes : List UInt8) : Option Nat → List UInt8
  | none => bytes
  | some window => bytes.take window

/-- The bytes that a program can read and overwrite. -/
def addressable (msg : Message) : List UInt8 :=
  withinWindow msg.bytes msg.window

/-- A message whose window keeps its width whatever is put in front. -/
def ofBytes (bytes : List UInt8) (window : Option Nat := none) : Message :=
  { bytes, window, reshapedWindow := window }

/-- Overwrites addressable bytes. -/
def store? (msg : Message) (offset : Nat) (data : List UInt8) : Option Message :=
  if offset + data.length ≤ msg.addressable.length then
    (Bytes.overwrite? msg.bytes offset data).map fun bytes => { msg with bytes }
  else none

/-- Puts `count` zero bytes in front. -/
def grow? (msg : Message) (count : Nat) : Option Message :=
  if msg.canGrow then
    some { msg with
      bytes := List.replicate count 0 ++ msg.bytes
      window := msg.reshapedWindow }
  else none

/-- Takes the first `count` bytes away. -/
def shrink? (msg : Message) (count : Nat) : Option Message :=
  if msg.canShrink ∧ count ≤ msg.bytes.length then
    some { msg with
      bytes := msg.bytes.drop count
      window := msg.reshapedWindow }
  else none

@[simp] theorem addressable_ofBytes (bytes : List UInt8) :
    (ofBytes bytes).addressable = bytes := rfl

/-- Addressable bytes are a beginning of the message. -/
theorem addressable_eq_take (msg : Message) :
    ∃ n, msg.addressable = msg.bytes.take n := by
  cases h : msg.window with
  | none => exact ⟨msg.bytes.length, by simp [addressable, withinWindow, h]⟩
  | some n => exact ⟨n, by simp [addressable, withinWindow, h]⟩

/-- Bytes just put in front can be taken away again, unless that fails altogether. -/
theorem shrink?_of_grow? {msg grown : Message} {count : Nat}
    (h : msg.grow? count = some grown) (hshrink : msg.canShrink) :
    (grown.shrink? count).map (·.bytes) = some msg.bytes := by
  unfold grow? at h
  split at h
  · cases h
    simp [shrink?, hshrink]
  · cases h

end Message

end MeshTrace
