import MeshTrace.Bytes.Linear
import MeshTrace.Bytes.Slice

/-!
# Views between two addresses read like lists of bytes

A view stands for the bytes between its two addresses (`Linear.bytes`).  A read of several
bytes checks both of its sums, so it gives exactly the piece of that list, and `none` where
the piece leaves the list, whatever the addresses are (`Linear.slice?_eq`); words are read
through such pieces.

The read of one byte leaves its second sum unchecked.  That sum overflows for the last
address of all and for no other.  No view has this address inside, so the answer should be
`none`, and there is no answer (`Linear.byte?_eq`).  `Linear.reads_like_bytes_iff` says that
this is the only difference.
-/

namespace MeshTrace.Linear

/-- The bytes between the two addresses of a view. -/
def bytes (view : Linear) : List UInt8 :=
  (List.range view.size).map fun i => view.memory (view.start + UInt64.ofNat i)

@[simp] theorem length_bytes (view : Linear) : view.bytes.length = view.size := by
  simp [bytes]

/-- Byte `i` of a view is what the memory holds `i` addresses behind its start. -/
theorem getElem?_bytes {view : Linear} {i : Nat} (h : i < view.size) :
    view.bytes[i]? = some (view.memory (view.start + UInt64.ofNat i)) := by
  simp [bytes, h]

/-- Memory that holds a list of bytes shows them, unless they run over the last address. -/
theorem bytes_ofBytes {start : UInt64} {bytes : List UInt8}
    (h : start.toNat + bytes.length < UInt64.size) : (ofBytes start bytes).bytes = bytes := by
  have hlength : (UInt64.ofNat bytes.length).toNat = bytes.length :=
    UInt64.toNat_ofNat_of_lt' (by omega)
  have hstop : (start + UInt64.ofNat bytes.length).toNat = start.toNat + bytes.length := by
    rw [UInt64.toNat_add, hlength, Nat.mod_eq_of_lt h]
  have hsize : (ofBytes start bytes).size = bytes.length := by
    rw [size, ofBytes, hstop, Nat.add_sub_cancel_left]
  apply List.ext_getElem?
  intro i
  by_cases hi : i < bytes.length
  · have hplace : (start + UInt64.ofNat i - start).toNat = i := by
      rw [UInt64.add_comm, UInt64.add_sub_cancel, UInt64.toNat_ofNat_of_lt' (by omega)]
    rw [getElem?_bytes (by omega)]
    simp only [ofBytes, hplace]
    rw [List.getElem?_eq_getElem hi, Option.getD_some]
  · rw [List.getElem?_eq_none (by rw [length_bytes]; omega), List.getElem?_eq_none (by omega)]

/-! The two sums of a read -/

theorem add?_of_lt {a b : UInt64} (h : a.toNat + b.toNat < UInt64.size) :
    add? a b = some (a + b) := if_pos h

theorem add?_of_le {a b : UInt64} (h : UInt64.size ≤ a.toNat + b.toNat) : add? a b = none :=
  if_neg (by omega)

theorem toNat_add_of_lt {a b : UInt64} (h : a.toNat + b.toNat < UInt64.size) :
    (a + b).toNat = a.toNat + b.toNat := by
  rw [UInt64.toNat_add, Nat.mod_eq_of_lt h]

variable {view : Linear}

/-- A span is granted exactly if it ends in time. -/
theorem span?_eq (h : view.start ≤ view.stop) (offset count : UInt64) :
    view.span? offset count =
      if offset.toNat + count.toNat ≤ view.size then some (view.start + offset) else none := by
  have hstop := view.stop.toNat_lt_size
  rw [UInt64.le_iff_toNat_le] at h
  unfold span? size
  by_cases hfirst : view.start.toNat + offset.toNat < UInt64.size
  · have haddress := toNat_add_of_lt hfirst
    rw [add?_of_lt hfirst, Option.bind_some]
    by_cases hlast : (view.start + offset).toNat + count.toNat < UInt64.size
    · have hend := toNat_add_of_lt hlast
      have hout : view.start + offset + count > view.stop ↔
          ¬offset.toNat + count.toNat ≤ view.stop.toNat - view.start.toNat := by
        rw [gt_iff_lt, UInt64.lt_iff_toNat_lt]
        omega
      rw [add?_of_lt hlast, Option.bind_some]
      simp only [hout, ite_not]
    · rw [add?_of_le (by omega), Option.bind_none, if_neg (by omega)]
  · rw [add?_of_le (by omega), Option.bind_none, if_neg (by omega)]

/-- **Reads of several bytes.**  They give the piece of the list that the view stands for. -/
theorem slice?_eq (h : view.start ≤ view.stop) (offset count : UInt64) :
    view.slice? offset count = Bytes.slice? view.bytes offset.toNat count.toNat := by
  rw [slice?, span?_eq h, Bytes.slice?, length_bytes]
  by_cases hfits : offset.toNat + count.toNat ≤ view.size
  · rw [if_pos hfits, if_pos hfits, Option.map_some, Option.some_inj]
    apply List.ext_getElem?
    intro i
    rw [List.getElem?_take]
    by_cases hi : i < count.toNat
    · have haddress : view.start + offset + UInt64.ofNat i =
          view.start + UInt64.ofNat (offset.toNat + i) := by
        rw [UInt64.ofNat_add, UInt64.ofNat_toNat, UInt64.add_assoc]
      rw [if_pos hi, List.getElem?_drop, getElem?_bytes (by omega), ← haddress]
      simp [hi]
    · rw [if_neg hi, List.getElem?_eq_none (by simpa using hi)]
  · rw [if_neg hfits, if_neg hfits, Option.map_none]

/-- **Reads of one byte.**  They give the byte of the list that the view stands for, unless
they are for the last address of all. -/
theorem byte?_eq (h : view.start ≤ view.stop) (offset : UInt64) :
    view.byte? offset =
      if view.start.toNat + offset.toNat + 1 = UInt64.size then .error .overflow
      else .ok (Bytes.byte? view.bytes offset.toNat) := by
  have hstop := view.stop.toNat_lt_size
  rw [UInt64.le_iff_toNat_le] at h
  have hsize : view.size = view.stop.toNat - view.start.toNat := rfl
  unfold byte? Bytes.byte?
  by_cases hfirst : view.start.toNat + offset.toNat < UInt64.size
  · have haddress := toNat_add_of_lt hfirst
    simp only [add?_of_lt hfirst]
    by_cases hlast : view.start.toNat + offset.toNat + 1 = UInt64.size
    · have hover : UInt64.size ≤ (view.start + offset).toNat + (1 : UInt64).toNat := by
        rw [haddress, UInt64.toNat_one]
        exact Nat.le_of_eq hlast.symm
      simp only [add?_of_le hover, if_pos hlast]
    · have hshort : (view.start + offset).toNat + (1 : UInt64).toNat < UInt64.size := by
        rw [haddress, UInt64.toNat_one]
        omega
      have hend := toNat_add_of_lt hshort
      rw [haddress, UInt64.toNat_one] at hend
      simp only [add?_of_lt hshort, if_neg hlast]
      have hout : view.start + offset + 1 > view.stop ↔ ¬offset.toNat < view.size := by
        rw [gt_iff_lt, UInt64.lt_iff_toNat_lt, hend]
        omega
      simp only [hout, ite_not]
      by_cases hin : offset.toNat < view.size
      · rw [if_pos hin, getElem?_bytes hin, UInt64.ofNat_toNat]
      · rw [if_neg hin, List.getElem?_eq_none (by rw [length_bytes]; omega)]
  · have hover : UInt64.size ≤ view.start.toNat + offset.toNat := by omega
    simp only [add?_of_le hover]
    rw [if_neg (by omega), List.getElem?_eq_none (by rw [length_bytes]; omega)]

/-- **When a view reads like the bytes between its addresses.**  Reads of several bytes, and
with them reads of words, always do: they succeed exactly if they end in time.  The read of one
byte does exactly if the byte has an address behind it.  The last address of all has none: there
the sum overflows, while the list has no such byte. -/
theorem reads_like_bytes_iff (view : Linear) (h : view.start ≤ view.stop) (offset : UInt64) :
    (∀ count, ((view.slice? offset count).isSome ↔
          offset.toNat + count.toNat ≤ view.stop.toNat - view.start.toNat) ∧
        view.slice? offset count = Bytes.slice? view.bytes offset.toNat count.toNat) ∧
      view.word32? offset = Bytes.word32? view.bytes offset.toNat ∧
      view.word64? offset = Bytes.word64? view.bytes offset.toNat ∧
      ((Bytes.byte? view.bytes offset.toNat).isSome ↔
        offset.toNat + 1 ≤ view.stop.toNat - view.start.toNat) ∧
      (view.byte? offset = .ok (Bytes.byte? view.bytes offset.toNat) ↔
        view.start.toNat + offset.toNat + 1 ≠ UInt64.size) ∧
      (view.byte? offset = .error .overflow ↔
        view.start.toNat + offset.toNat + 1 = UInt64.size) := by
  refine ⟨fun count => ⟨?_, slice?_eq h offset count⟩, ?_, ?_, ?_, ?_⟩
  · rw [slice?, Option.isSome_map, span?_eq h, size]
    split
    next hfits => simp [hfits]
    next hlong => simp [hlong]
  · rw [word32?, Bytes.word32?, slice?_eq h]
    rfl
  · rw [word64?, Bytes.word64?, slice?_eq h]
    rfl
  · rw [Bytes.byte?, isSome_getElem?, length_bytes, size]
    exact Iff.rfl
  · rw [byte?_eq h]
    by_cases hlast : view.start.toNat + offset.toNat + 1 = UInt64.size
    · simp [hlast]
    · simp [hlast]

/-- A view that ends at the last address.  All its bytes are read.  The byte behind them is
refused as a piece of one byte, and as a byte there is no answer for it. -/
theorem reads_like_bytes_lastAddress :
    let view := ofBytes 0xFFFFFFFFFFFFFFFC [10, 20, 30]
    view.start ≤ view.stop ∧ view.bytes = [10, 20, 30] ∧
      view.byte? 2 = .ok (some 30) ∧ view.slice? 1 2 = some [20, 30] ∧
      view.slice? 3 1 = none ∧ view.byte? 3 = .error .overflow := by
  intro view
  have hordered : view.start ≤ view.stop := by decide +kernel
  have hbytes : view.bytes = [10, 20, 30] := bytes_ofBytes (by decide +kernel)
  obtain ⟨hpieces, -⟩ := reads_like_bytes_iff view hordered 1
  obtain ⟨-, -, -, -, hinside, -⟩ := reads_like_bytes_iff view hordered 2
  obtain ⟨hbehind, -, -, -, -, hlast⟩ := reads_like_bytes_iff view hordered 3
  refine ⟨hordered, hbytes, ?_, ?_, ?_, hlast.mpr (by decide +kernel)⟩
  · rw [hinside.mpr (by decide +kernel), hbytes]
    rfl
  · rw [(hpieces 2).2, hbytes]
    rfl
  · rw [(hbehind 1).2, hbytes]
    rfl

/-- **A byte for which there is no answer.**  No bytes lie at address 1, and the last address of
all is asked for.  As a piece of one byte it is refused; as a byte, the sum overflows. -/
theorem byte_read_overflows :
    let view := ofBytes 1 []
    view.start ≤ view.stop ∧ view.size = 0 ∧
      Bytes.byte? view.bytes (0xFFFFFFFFFFFFFFFE : UInt64).toNat = none ∧
      view.slice? 0xFFFFFFFFFFFFFFFE 1 = none ∧
      view.byte? 0xFFFFFFFFFFFFFFFE = .error .overflow :=
  ⟨by decide +kernel, by decide +kernel, by decide +kernel, by decide +kernel, rfl⟩

end MeshTrace.Linear
