import MeshTrace.Connection

/-!
# The ends of a connection

A connection is known by the addresses and the port numbers of its two ends, and each end
sees it its own way round.  The system tells the near number in the machine's own order and
the far one in network order in the upper half of its word (`SocketEvent.Tells`); the machine
is little-endian.  In a key both have network order: the bytes of the near number are swapped
(`swapBytes_toUInt32`), the far one is only moved down.

So connections with one key have the same ends (`Ends.key_inj`), and what one end is
registered under is the reverse of what the other end is (`SocketEvent.Tells.key_eq`,
`Ends.key_reversed`).
-/

namespace MeshTrace

/-- One end of a connection. -/
structure Endpoint where
  address : UInt32
  port : UInt16
deriving Repr, DecidableEq

/-- The two ends of a connection, as one of them sees it. -/
structure Ends where
  near : Endpoint
  far : Endpoint
deriving Repr, DecidableEq

/-- The same connection, as its other end sees it. -/
def Ends.reversed (ends : Ends) : Ends where
  near := ends.far
  far := ends.near

/-- The key with its ends exchanged. -/
def ConnectionKey.reversed (key : ConnectionKey) : ConnectionKey where
  sourceAddress := key.targetAddress
  targetAddress := key.sourceAddress
  sourcePort := key.targetPort
  targetPort := key.sourcePort

namespace Connection

/-- A port number in network order: its two bytes the other way round. -/
def networkOrder (port : UInt16) : UInt16 :=
  port <<< 8 ||| port >>> 8

/-- Network order swaps the two bytes of a port. -/
theorem getLsbD_networkOrder (port : UInt16) (i : Nat) :
    (networkOrder port).toBitVec.getLsbD i =
      if i < 8 then port.toBitVec.getLsbD (8 + i)
      else decide (i < 16) && port.toBitVec.getLsbD (i - 8) := by
  by_cases h : i < 8
  · simp [networkOrder, h]
  · have hnone : port.toBitVec.getLsbD (8 + i) = false := BitVec.getLsbD_of_ge _ _ (by omega)
    simp [networkOrder, h, hnone]

/-- Swapping twice changes nothing. -/
theorem networkOrder_networkOrder (port : UInt16) :
    networkOrder (networkOrder port) = port := by
  apply UInt16.eq_of_toBitVec_eq
  apply BitVec.eq_of_getLsbD_eq
  intro i hi
  rw [getLsbD_networkOrder, getLsbD_networkOrder, getLsbD_networkOrder]
  by_cases h : i < 8
  · have hback : ¬8 + i < 8 := by omega
    have hword : 8 + i < 16 := by omega
    simp [h, hback, hword]
  · have hback : i - 8 < 8 := by omega
    have hsame : 8 + (i - 8) = i := by omega
    simp [h, hi, hback, hsame]

/-- The middle of a word, from which `swapBytes` takes single bytes. -/
theorem getLsbD_middle (i : Nat) : (0xFF00#32).getLsbD i = decide (8 ≤ i ∧ i < 16) := by
  by_cases h : i < 32
  · revert i
    decide
  · have hout : ¬(8 ≤ i ∧ i < 16) := by omega
    rw [BitVec.getLsbD_of_ge _ _ (by omega), decide_eq_false hout]

/-- Every bit of a swapped word stems from the byte at the other end. -/
theorem getLsbD_swapBytes (word : UInt32) {i : Nat} (hi : i < 32) :
    (swapBytes word).toBitVec.getLsbD i = word.toBitVec.getLsbD (8 * (3 - i / 8) + i % 8) := by
  have hbits : (swapBytes word).toBitVec.getLsbD i =
      (decide (24 ≤ i) && word.toBitVec.getLsbD (i - 24) ||
        decide (16 ≤ i ∧ i < 24) && word.toBitVec.getLsbD (i - 8) ||
        decide (8 ≤ i ∧ i < 16) && word.toBitVec.getLsbD (8 + i) ||
        word.toBitVec.getLsbD (24 + i)) := by
    simp only [swapBytes, UInt32.toBitVec_or, UInt32.toBitVec_and, UInt32.toBitVec_shiftLeft,
      UInt32.toBitVec_shiftRight, UInt32.toBitVec_ofNat, BitVec.ofNat_eq_ofNat, BitVec.reduceMod,
      BitVec.shiftLeft_eq', BitVec.ushiftRight_eq', BitVec.toNat_ofNat, Nat.reducePow,
      Nat.reduceMod, BitVec.getLsbD_or, BitVec.getLsbD_and, BitVec.getLsbD_shiftLeft,
      BitVec.getLsbD_ushiftRight, getLsbD_middle]
    grind
  rw [hbits]
  rcases (by omega : i < 8 ∨ 8 ≤ i ∧ i < 16 ∨ 16 ≤ i ∧ i < 24 ∨ 24 ≤ i) with h | h | h | h
  · have hsource : 8 * (3 - i / 8) + i % 8 = 24 + i := by omega
    grind
  · have hsource : 8 * (3 - i / 8) + i % 8 = 8 + i := by omega
    grind
  · have hsource : 8 * (3 - i / 8) + i % 8 = i - 8 := by omega
    grind
  · have hsource : 8 * (3 - i / 8) + i % 8 = i - 24 := by omega
    grind

/-- The upper half of a swapped port number is the number in network order. -/
theorem swapBytes_toUInt32 (port : UInt16) :
    swapBytes port.toUInt32 >>> 16 = (networkOrder port).toUInt32 := by
  apply UInt32.eq_of_toBitVec_eq
  apply BitVec.eq_of_getLsbD_eq
  intro i hi
  have hupper : (swapBytes port.toUInt32 >>> 16).toBitVec.getLsbD i =
      (swapBytes port.toUInt32).toBitVec.getLsbD (16 + i) := by
    simp
  have hwide : ∀ port : UInt16, ∀ j < 32,
      port.toUInt32.toBitVec.getLsbD j = port.toBitVec.getLsbD j := by
    intro port j hj
    simp [hj]
  rw [hupper, hwide _ _ hi, getLsbD_networkOrder]
  by_cases h : i < 16
  · rw [getLsbD_swapBytes _ (by omega), hwide _ _ (by omega)]
    by_cases hlow : i < 8
    · have hsource : 8 * (3 - (16 + i) / 8) + (16 + i) % 8 = 8 + i := by omega
      rw [hsource, if_pos hlow]
    · have hsource : 8 * (3 - (16 + i) / 8) + (16 + i) % 8 = i - 8 := by omega
      rw [hsource, if_neg hlow, decide_eq_true h, Bool.true_and]
  · have hlow : ¬i < 8 := by omega
    rw [BitVec.getLsbD_of_ge _ _ (by omega), if_neg hlow, decide_eq_false h, Bool.false_and]

/-- Different ports stay different in network order. -/
theorem networkOrder_inj {a b : UInt16} : networkOrder a = networkOrder b ↔ a = b := by
  constructor
  · intro h
    rw [← networkOrder_networkOrder a, h, networkOrder_networkOrder]
  · exact congrArg networkOrder

end Connection

namespace Ends

/-- The key of a connection, both port numbers in network order. -/
def key (ends : Ends) : ConnectionKey where
  sourceAddress := ends.near.address
  targetAddress := ends.far.address
  sourcePort := (Connection.networkOrder ends.near.port).toUInt32
  targetPort := (Connection.networkOrder ends.far.port).toUInt32

/-- The key of the other end is the reversed key. -/
theorem key_reversed (ends : Ends) : ends.reversed.key = ends.key.reversed := rfl

/-- A key tells the ends of its connection. -/
theorem key_inj {a b : Ends} : a.key = b.key ↔ a = b := by
  constructor
  · intro h
    obtain ⟨⟨nearAddress, nearPort⟩, ⟨farAddress, farPort⟩⟩ := a
    obtain ⟨⟨nearAddress', nearPort'⟩, ⟨farAddress', farPort'⟩⟩ := b
    simp only [key, ConnectionKey.mk.injEq, UInt16.toUInt32_inj, Connection.networkOrder_inj] at h
    obtain ⟨rfl, rfl, rfl, rfl⟩ := h
    rfl
  · exact congrArg key

end Ends

namespace SocketEvent

/-- The key from the words of an event, whether its socket is registered or not. -/
def key (event : SocketEvent) : ConnectionKey :=
  .ofWords event.localAddress event.remoteAddress event.localPort event.remotePort

/-- An event that ends a handshake, on either side, of a connection of version 4 or 6. -/
def EndsHandshake (event : SocketEvent) : Prop :=
  (event.operation = Connection.activeEstablished ∨
      event.operation = Connection.passiveEstablished) ∧
    (event.family = Connection.familyInet ∨ event.family = Connection.familyInet6)

instance (event : SocketEvent) : Decidable event.EndsHandshake :=
  inferInstanceAs (Decidable (_ ∧ _))

/-- Exactly the events that end a handshake have a key. -/
theorem key?_eq (event : SocketEvent) :
    event.key? = if event.EndsHandshake then some event.key else none := by
  have hends : (Connection.isEstablished event.operation &&
      Connection.isSupportedFamily event.family) = true ↔ event.EndsHandshake := by
    simp [EndsHandshake, Connection.isEstablished, Connection.isSupportedFamily]
  unfold key?
  by_cases h : event.EndsHandshake
  · rw [if_pos (hends.mpr h), if_pos h, key]
  · rw [if_neg (mt hends.mp h), if_neg h]

/-- The words of an event tell the ends of its connection as the system gives them: the near
port number as it is, the far one in network order in the upper half of its word. -/
structure Tells (event : SocketEvent) (ends : Ends) : Prop where
  nearAddress : event.localAddress = ends.near.address
  farAddress : event.remoteAddress = ends.far.address
  nearPort : event.localPort = ends.near.port.toUInt32
  farPort : event.remotePort >>> 16 = (Connection.networkOrder ends.far.port).toUInt32

/-- An event that tells the ends of a connection has the key of that connection. -/
theorem Tells.key_eq {event : SocketEvent} {ends : Ends} (h : event.Tells ends) :
    event.key = ends.key := by
  rw [key, h.nearAddress, h.farAddress, h.nearPort, ConnectionKey.ofWords,
    Connection.swapBytes_toUInt32, h.farPort]
  rfl

end SocketEvent

end MeshTrace
