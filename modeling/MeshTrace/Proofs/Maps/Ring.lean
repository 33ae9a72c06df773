import MeshTrace.PathCache

/-!
# The ids that the eviction ring lists

A ring in order lists the trace ids in its live slots, from the head round the
circle up to the tail.  `Lists` states which ids these are.  Everything that the
ring does is told in these terms, so no later proof counts slots:

* `Lists.push_of_lt` and `Lists.push_of_full` -- pushing an id appends it to the
  list, and a list that would leave no free slot loses its oldest id;
* `Lists.push_newest` -- both at once: the ring lists the `newest` ids of all that
  were ever pushed;
* `leaving?` and `Spares` -- the id that the next push evicts, and the ids that no push
  behind the first ones evicts;
* `Lists.toNat_occupancy` and `Lists.window_eq` -- the live slots that a reader
  counts are as many as the listed ids, and spell them.
-/

namespace MeshTrace.Ring

/-- The slot `n` places behind `head` on the circle. -/
def slotAfter (head n : Nat) : Nat :=
  (head + n) % ringSize

/-- Reducing an index takes it around the circle. -/
theorem toNat_reduce (index : UInt32) : (reduce index).toNat = index.toNat % ringSize := by
  simp [reduce, ringSize]

theorem toNat_next (index : UInt32) : (next index).toNat = slotAfter index.toNat 1 := by
  simp [next, slotAfter, ringSize, UInt32.toNat_add]

/-- The live slots are counted round the circle from head to tail. -/
theorem toNat_occupancy (head tail : UInt32) :
    (occupancy head tail).toNat =
      (tail.toNat % ringSize + ringSize - head.toNat % ringSize) % ringSize := by
  have hhead := toNat_reduce head
  have htail := toNat_reduce tail
  simp [occupancy, ringSize, UInt32.toNat_add, UInt32.toNat_sub] at *
  omega

theorem slotAfter_lt (head n : Nat) : slotAfter head n < ringSize :=
  Nat.mod_lt _ (by decide)

theorem slotAfter_zero {head : Nat} (h : head < ringSize) : slotAfter head 0 = head :=
  Nat.mod_eq_of_lt h

/-- Places are counted on. -/
theorem slotAfter_slotAfter (head m n : Nat) :
    slotAfter (slotAfter head m) n = slotAfter head (m + n) := by
  simp [slotAfter, Nat.add_assoc]

/-- Fewer places than there are slots never lead to one slot twice. -/
theorem slotAfter_inj {head m n : Nat} (hm : m < ringSize) (hn : n < ringSize)
    (h : slotAfter head m = slotAfter head n) : m = n := by
  unfold slotAfter ringSize at *
  omega

/-- The ring is in order, all its maps are there, and its live slots hold `ids`,
oldest first. -/
structure Lists (ring : Ring) (ids : List UInt64) : Prop where
  head_present : ring.head.present
  tail_present : ring.tail.present
  reachable : ring.reachable
  size_slots : ring.slots.size = ringSize
  head_lt : ring.head.value.toNat < ringSize
  length_lt : ids.length < ringSize
  tail_eq : ring.tail.value.toNat = slotAfter ring.head.value.toNat ids.length
  entry : ∀ n (h : n < ids.length),
    ring.slots[slotAfter ring.head.value.toNat n]? = some ids[n]

variable {ring : Ring} {ids : List UInt64}

/-- A fresh ring lists nothing. -/
theorem lists_fresh : Lists fresh [] where
  head_present := rfl
  tail_present := rfl
  reachable := rfl
  size_slots := by simp [fresh]
  head_lt := by decide
  length_lt := by decide
  tail_eq := by decide
  entry := by simp

/-- A slot of a reachable ring is read as it is. -/
theorem entry?_of_reachable (h : ring.reachable) (slot : UInt32) :
    ring.entry? slot = ring.slots[slot.toNat]? := by
  unfold entry?
  rw [if_pos h]

theorem Lists.get?_head (h : Lists ring ids) : ring.head.get? = some ring.head.value := by
  simp [Cell.get?, h.head_present]

theorem Lists.get?_tail (h : Lists ring ids) : ring.tail.get? = some ring.tail.value := by
  simp [Cell.get?, h.tail_present]

/-- The tail of a ring in order is a slot number. -/
theorem Lists.tail_lt (h : Lists ring ids) : ring.tail.value.toNat < ringSize := by
  rw [h.tail_eq]
  exact slotAfter_lt _ _

/-- Head and tail are slot numbers already, so reducing them changes nothing. -/
theorem reduce_of_lt {index : UInt32} (h : index.toNat < ringSize) : reduce index = index := by
  apply UInt32.toNat_inj.mp
  rw [toNat_reduce, Nat.mod_eq_of_lt h]

/-- There are as many live slots as listed ids. -/
theorem Lists.toNat_occupancy (h : Lists ring ids) :
    (occupancy ring.head.value ring.tail.value).toNat = ids.length := by
  have hhead := h.head_lt
  have hlength := h.length_lt
  rw [Ring.toNat_occupancy, h.tail_eq]
  unfold slotAfter ringSize at *
  omega

/-- Reading slot after slot from the `skip`th id on spells the ids behind it. -/
theorem Lists.window_slotAfter (h : Lists ring ids) (count : Nat) :
    ∀ (skip : Nat) (head : UInt32), skip + count = ids.length →
      head.toNat = slotAfter ring.head.value.toNat skip →
      ring.window head count = (ids.drop skip).map some := by
  induction count with
  | zero =>
      intro skip head hcount hhead
      rw [List.drop_of_length_le (by omega)]
      rfl
  | succ n ih =>
      intro skip head hcount hhead
      have hskip : skip < ids.length := by omega
      have hnext : (next head).toNat = slotAfter ring.head.value.toNat (skip + 1) := by
        rw [toNat_next, hhead, slotAfter_slotAfter]
      have hentry : ring.entry? head = some ids[skip] := by
        rw [entry?_of_reachable h.reachable, hhead]
        exact h.entry skip hskip
      rw [window, ih (skip + 1) (next head) (by omega) hnext, hentry,
        List.drop_eq_getElem_cons hskip, List.map_cons]

/-- **The live slots spell the listed ids**, oldest first. -/
theorem Lists.window_eq (h : Lists ring ids) :
    ring.window ring.head.value (occupancy ring.head.value ring.tail.value).toNat =
      ids.map some := by
  have hwindow := h.window_slotAfter ids.length 0 ring.head.value (by omega)
    (slotAfter_zero h.head_lt).symm
  rwa [h.toNat_occupancy]

/-- The ring once an id is written to the slot at the tail and the tail is moved
on; the head is still where it was. -/
def append (ring : Ring) (traceId : UInt64) : Ring :=
  { ring.setEntry ring.tail.value traceId with tail := ring.tail.set (next ring.tail.value) }

@[simp] theorem head_append (ring : Ring) (traceId : UInt64) :
    (ring.append traceId).head = ring.head := by
  unfold append setEntry
  split <;> rfl

@[simp] theorem tail_append (ring : Ring) (traceId : UInt64) :
    (ring.append traceId).tail = ring.tail.set (next ring.tail.value) := rfl

@[simp] theorem reachable_append (ring : Ring) (traceId : UInt64) :
    (ring.append traceId).reachable = ring.reachable := by
  unfold append setEntry
  split <;> rfl

/-- Pushing to a ring in order appends at the tail, and passes the oldest slot over
when the tail meets the head. -/
theorem Lists.push_eq (h : Lists ring ids) (traceId : UInt64) :
    ring.push ring.head.value ring.tail.value traceId =
      if ring.head.value ≠ next ring.tail.value then (none, ring.append traceId)
      else ( entry? (ring.append traceId) ring.head.value,
        { ring.append traceId with head := ring.head.set (next ring.head.value) }) := by
  have htail : (ring.setEntry ring.tail.value traceId).tail = ring.tail := by
    unfold setEntry
    split <;> rfl
  have hhead : (ring.setEntry ring.tail.value traceId).head = ring.head := by
    unfold setEntry
    split <;> rfl
  simp only [push, append, reduce_of_lt h.head_lt, reduce_of_lt h.tail_lt, htail, hhead]

/-- The tail meets the head exactly when the pushed id takes the last slot. -/
theorem Lists.head_eq_next_tail_iff (h : Lists ring ids) :
    ring.head.value = next ring.tail.value ↔ ids.length + 1 = ringSize := by
  have hhead := h.head_lt
  have hlength := h.length_lt
  rw [← UInt32.toNat_inj, toNat_next, h.tail_eq, slotAfter_slotAfter]
  unfold slotAfter ringSize at *
  omega

/-- Behind an appended id the tail is one more place from the head. -/
theorem Lists.value_tail_append (h : Lists ring ids) (traceId : UInt64) :
    (ring.append traceId).tail.value.toNat =
      slotAfter ring.head.value.toNat (ids.length + 1) := by
  have hvalue : (ring.append traceId).tail.value = next ring.tail.value := by
    simp [Cell.set, Cell.value, h.tail_present]
  rw [hvalue, toNat_next, h.tail_eq, slotAfter_slotAfter]

/-- The live slots before an append hold what they held, and the slot at the tail
holds the new id.  This is so also when the new id takes the last slot. -/
theorem Lists.entry_append (h : Lists ring ids) (traceId : UInt64) :
    ∀ n (hn : n < (ids ++ [traceId]).length),
      (ring.append traceId).slots[slotAfter ring.head.value.toNat n]? =
        some (ids ++ [traceId])[n] := by
  intro n hn
  have hlength := h.length_lt
  have hle : n ≤ ids.length := by
    rw [List.length_append, List.length_singleton] at hn
    omega
  have hslots : (ring.append traceId).slots =
      ring.slots.setIfInBounds (slotAfter ring.head.value.toNat ids.length) traceId := by
    simp [append, setEntry, h.reachable, h.tail_eq]
  rw [hslots]
  by_cases hlast : n = ids.length
  · subst hlast
    have hbound : slotAfter ring.head.value.toNat ids.length < ring.slots.size := by
      rw [h.size_slots]
      exact slotAfter_lt _ _
    simp [hbound]
  · have hother : slotAfter ring.head.value.toNat ids.length ≠
        slotAfter ring.head.value.toNat n := by
      intro heq
      exact hlast (slotAfter_inj hlength (by omega) heq).symm
    rw [Array.getElem?_setIfInBounds_ne hother, h.entry n (by omega),
      List.getElem_append_left (by omega)]

theorem Lists.size_append (h : Lists ring ids) (traceId : UInt64) :
    (ring.append traceId).slots.size = ringSize := by
  simp [append, setEntry, h.reachable, h.size_slots]

/-- **Pushing appends.**  While a slot stays free, a pushed id is listed behind the
others and nothing is evicted. -/
theorem Lists.push_of_lt (h : Lists ring ids) (traceId : UInt64)
    (hfree : ids.length + 1 < ringSize) :
    ring.push ring.head.value ring.tail.value traceId = (none, ring.append traceId) ∧
      Lists (ring.append traceId) (ids ++ [traceId]) := by
  have hapart : ring.head.value ≠ next ring.tail.value := by
    intro heq
    have := h.head_eq_next_tail_iff.mp heq
    omega
  refine ⟨by rw [h.push_eq, if_pos hapart], ?_⟩
  exact {
    head_present := by simpa using h.head_present
    tail_present := by simpa using h.tail_present
    reachable := by simpa using h.reachable
    size_slots := h.size_append traceId
    head_lt := by simpa using h.head_lt
    length_lt := by simpa using hfree
    tail_eq := by simpa using h.value_tail_append traceId
    entry := by simpa using h.entry_append traceId }

/-- **Pushing evicts the oldest.**  When the pushed id takes the last slot, the
oldest id is evicted and the head moves behind it. -/
theorem Lists.push_of_full {oldest : UInt64} (h : Lists ring (oldest :: ids))
    (traceId : UInt64) (hfull : (oldest :: ids).length + 1 = ringSize) :
    ∃ pushed, ring.push ring.head.value ring.tail.value traceId = (some oldest, pushed) ∧
      Lists pushed (ids ++ [traceId]) := by
  have hmeet := h.head_eq_next_tail_iff.mpr hfull
  have hslots := h.entry_append traceId
  have hhead : (next ring.head.value).toNat = slotAfter ring.head.value.toNat 1 :=
    toNat_next _
  have hvalue : (ring.head.set (next ring.head.value)).value = next ring.head.value := by
    simp [Cell.set, Cell.value, h.head_present]
  have holdest : entry? (ring.append traceId) ring.head.value = some oldest := by
    have hzero := hslots 0 (by simp)
    rw [slotAfter_zero h.head_lt] at hzero
    rw [entry?_of_reachable (by simpa using h.reachable), hzero]
    rfl
  refine ⟨{ ring.append traceId with head := ring.head.set (next ring.head.value) }, ?_, ?_⟩
  · rw [h.push_eq, if_neg (by simpa using hmeet), holdest]
  · exact {
      head_present := by simpa using h.head_present
      tail_present := by simpa using h.tail_present
      reachable := by simpa using h.reachable
      size_slots := h.size_append traceId
      head_lt := by
        rw [hvalue, hhead]
        exact slotAfter_lt _ _
      length_lt := by
        have hlength := h.length_lt
        simpa using hlength
      tail_eq := by
        rw [hvalue, hhead, slotAfter_slotAfter]
        have htail := h.value_tail_append traceId
        rw [List.length_cons] at htail
        rw [List.length_append, List.length_singleton, Nat.add_comm 1]
        exact htail
      entry := by
        intro n hn
        rw [hvalue, hhead, slotAfter_slotAfter, Nat.add_comm 1]
        exact hslots (n + 1) (by simpa using hn) }

/-- A push moves the head on exactly when the pushed id takes the last slot. -/
theorem Lists.value_head_push (h : Lists ring ids) (traceId : UInt64) :
    (ring.push ring.head.value ring.tail.value traceId).2.head.value.toNat =
      if ids.length + 1 < ringSize then ring.head.value.toNat
      else slotAfter ring.head.value.toNat 1 := by
  have hlength := h.length_lt
  rw [h.push_eq]
  by_cases hmeet : ring.head.value = next ring.tail.value
  · have hfull := h.head_eq_next_tail_iff.mp hmeet
    have hvalue : (ring.head.set (next ring.head.value)).value = next ring.head.value := by
      simp [Cell.set, Cell.value, h.head_present]
    rw [if_neg (not_not_intro hmeet), if_neg (by omega), hvalue, toNat_next]
  · have hfree := mt h.head_eq_next_tail_iff.mpr hmeet
    rw [if_pos hmeet, if_pos (by omega), head_append]

/-- The ids of a history of pushes that are still listed: the last ones, one fewer
than there are slots. -/
def newest (pushed : List UInt64) : List UInt64 :=
  pushed.drop (pushed.length - (ringSize - 1))

/-- The ring lists all pushed ids, up to one fewer than it has slots. -/
theorem length_newest (pushed : List UInt64) :
    (newest pushed).length = min pushed.length (ringSize - 1) := by
  rw [newest, List.length_drop]
  omega

/-- One more push adds the id at the end, and drops the oldest one once there are
`ringSize - 1` of them. -/
theorem newest_append (pushed : List UInt64) (traceId : UInt64) :
    newest (pushed ++ [traceId]) =
      (if pushed.length + 1 < ringSize then newest pushed else (newest pushed).tail) ++
        [traceId] := by
  by_cases hfree : pushed.length + 1 < ringSize
  · have hnone : pushed.length - (ringSize - 1) = 0 := by omega
    have hnext : pushed.length + 1 - (ringSize - 1) = 0 := by omega
    simp [newest, hfree, hnone, hnext]
  · have hdrop : pushed.length + 1 - (ringSize - 1) =
        pushed.length - (ringSize - 1) + 1 := by
      unfold ringSize at *
      omega
    rw [if_neg hfree, newest, List.length_append, List.length_singleton, hdrop,
      List.drop_append_of_le_length (by unfold ringSize at *; omega), newest, List.tail_drop]

/-- The id that the next push evicts, once `ringSize - 1` ids were pushed. -/
def leaving? (pushed : List UInt64) : Option UInt64 :=
  if pushed.length + 1 < ringSize then none else (newest pushed).head?

/-- The next push evicts the id that was pushed `ringSize - 1` pushes before it. -/
theorem leaving?_eq_some_iff {pushed : List UInt64} {traceId : UInt64} :
    leaving? pushed = some traceId ↔
      ∃ n, n + (ringSize - 1) = pushed.length ∧ pushed[n]? = some traceId := by
  unfold leaving? newest
  rw [List.head?_drop]
  constructor
  · intro h
    split at h
    · cases h
    · exact ⟨pushed.length - (ringSize - 1), by unfold ringSize at *; omega, h⟩
  · rintro ⟨n, hn, hid⟩
    rw [if_neg (by unfold ringSize at *; omega), ← hn, Nat.add_sub_cancel]
    exact hid

/-- Counted with the push that evicts it, the id stands `ringSize` places from the end. -/
theorem leaving?_eq_getElem? (pushed : List UInt64) (traceId : UInt64) :
    leaving? pushed =
      if pushed.length + 1 < ringSize then none
      else (pushed ++ [traceId])[pushed.length + 1 - ringSize]? := by
  unfold leaving? newest
  by_cases hfree : pushed.length + 1 < ringSize
  · rw [if_pos hfree, if_pos hfree]
  · have hplace : pushed.length - (ringSize - 1) = pushed.length + 1 - ringSize := by
      unfold ringSize at *
      omega
    rw [if_neg hfree, if_neg hfree, List.head?_drop, hplace,
      List.getElem?_append_left (by unfold ringSize at *; omega)]

/-- No push behind the first `count` ones evicts `traceId`: it is not among the ids that
they drive out. -/
def Spares (pushed : List UInt64) (count : Nat) (traceId : UInt64) : Prop :=
  ∀ n, count ≤ n + (ringSize - 1) → n + (ringSize - 1) < pushed.length →
    pushed[n]? ≠ some traceId

/-- Pushes that are yet to come evict nothing. -/
theorem spares_length (pushed : List UInt64) (traceId : UInt64) :
    Spares pushed pushed.length traceId := by
  intro n hcount hlast
  omega

/-- Before the ring is full no push evicts anything. -/
theorem spares_of_length_lt {pushed : List UInt64} (h : pushed.length < ringSize)
    (count : Nat) (traceId : UInt64) : Spares pushed count traceId := by
  intro n _ hlast
  omega

/-- One more push spares an id if the earlier ones do and it does not evict it itself. -/
theorem spares_append_iff {pushed : List UInt64} {count : Nat} {traceId pushedLast : UInt64}
    (hcount : count ≤ pushed.length) :
    Spares (pushed ++ [pushedLast]) count traceId ↔
      Spares pushed count traceId ∧ leaving? pushed ≠ some traceId := by
  have hold : ∀ n, n + (ringSize - 1) < (pushed ++ [pushedLast]).length →
      (pushed ++ [pushedLast])[n]? = pushed[n]? := by
    intro n hn
    rw [List.length_append, List.length_singleton] at hn
    exact List.getElem?_append_left (by unfold ringSize at *; omega)
  have hlength : (pushed ++ [pushedLast]).length = pushed.length + 1 := by simp
  constructor
  · intro h
    refine ⟨fun n hfirst hlast => ?_, fun hleaving => ?_⟩
    · rw [← hold n (by omega)]
      exact h n hfirst (by omega)
    · obtain ⟨n, hn, hid⟩ := leaving?_eq_some_iff.mp hleaving
      rw [← hold n (by omega)] at hid
      exact h n (by omega) (by omega) hid
  · rintro ⟨hspares, hleaving⟩ n hfirst hlast
    rw [hold n hlast]
    by_cases hpast : n + (ringSize - 1) < pushed.length
    · exact hspares n hfirst hpast
    · intro hid
      exact hleaving (leaving?_eq_some_iff.mpr ⟨n, by omega, hid⟩)

/-- An id that was pushed once is evicted by the push `ringSize - 1` places behind it, and
by no other. -/
theorem spares_iff_of_nodup {pushed : List UInt64} {n : Nat} {traceId : UInt64}
    (hdistinct : pushed.Nodup) (hid : pushed[n]? = some traceId) :
    Spares pushed n traceId ↔ pushed.length ≤ n + (ringSize - 1) := by
  constructor
  · intro h
    refine Nat.not_lt.mp fun hlast => ?_
    exact h n (Nat.le_add_right _ _) hlast hid
  · intro hrecent place _ hlast hplace
    have hsame : n = place :=
      (List.getElem?_inj (List.getElem?_eq_some_iff.mp hid).1 hdistinct).mp
        (hid.trans hplace.symm)
    omega

/-- An id that no later push evicts is listed. -/
theorem mem_newest_of_spares {pushed : List UInt64} {n : Nat} {traceId : UInt64}
    (hid : pushed[n]? = some traceId) (h : Spares pushed n traceId) :
    traceId ∈ newest pushed := by
  have hrecent : ¬ n + (ringSize - 1) < pushed.length := by
    intro hlast
    exact h n (Nat.le_add_right _ _) hlast hid
  have hplace : pushed.length - (ringSize - 1) + (n - (pushed.length - (ringSize - 1))) = n := by
    omega
  refine List.mem_of_getElem? (i := n - (pushed.length - (ringSize - 1))) ?_
  rw [newest, List.getElem?_drop, hplace]
  exact hid

/-- **A ring lists its newest ids.**  One more push keeps that true; it evicts the
oldest listed id once `ringSize - 1` ids were pushed, and no id before. -/
theorem Lists.push_newest {pushed : List UInt64} (h : Lists ring (newest pushed))
    (traceId : UInt64) :
    ∃ after, ring.push ring.head.value ring.tail.value traceId =
        (if pushed.length + 1 < ringSize then none else (newest pushed).head?, after) ∧
      Lists after (newest (pushed ++ [traceId])) := by
  have hlength := length_newest pushed
  rw [newest_append]
  by_cases hfree : pushed.length + 1 < ringSize
  · obtain ⟨hpush, hlists⟩ := h.push_of_lt traceId (by omega)
    refine ⟨ring.append traceId, ?_, ?_⟩
    · rw [hpush, if_pos hfree]
    · rw [if_pos hfree]
      exact hlists
  · rw [if_neg hfree, if_neg hfree]
    cases hnewest : newest pushed with
    | nil =>
        rw [hnewest, List.length_nil] at hlength
        unfold ringSize at *
        omega
    | cons oldest rest =>
        rw [hnewest] at h hlength
        obtain ⟨after, hpush, hlists⟩ := h.push_of_full traceId (by
          unfold ringSize at *
          omega)
        exact ⟨after, hpush, hlists⟩

end MeshTrace.Ring
