import MeshTrace.Proofs.Correlation.Delivery

/-!
# When a recorded request id is there

The call locator reports a request id as recorded, moves the counter on and leaves all other
numbers alone.  Whether the request id is in the table afterwards is another matter: a full
table refuses a new number, and nothing tells the locator.  It is there exactly if the number
was there before or there was room (`recorded_call_found_iff`); else nothing is under the
number.

The table fills up if nothing drains it.  The call after `Maps.maxCorrelations` undrained
ones is reported as recorded and lost (`recorded_call_lost`).
-/

namespace MeshTrace

/-- The locator records a call exactly if the call has a request id and the counter can be
read. -/
theorem Maps.correlate_recorded_iff {maps : Maps} {bytes : List UInt8}
    {sequence requestId : UInt64} :
    (maps.correlate bytes).1 = .recorded sequence requestId ↔
      Thrift.requestId? bytes = some requestId ∧ maps.counter.get? = some sequence := by
  cases hid : Thrift.requestId? bytes with
  | none => simp [correlate_of_none hid]
  | some id =>
      cases hcounter : maps.counter.get? with
      | none => simp [correlate, hid, hcounter]
      | some number =>
          rw [correlate_of_some hid hcounter]
          simp [and_comm]

/-- A call that carries request id 42. -/
def call42 : Message :=
  .ofBytes [0x80, 0x01, 0, 1, 0, 0, 0, 0, 0, 0, 0, 7, 0x0A, 0, 1, 0, 0, 0, 0, 0, 0, 0, 42]

theorem requestId?_call42 : Thrift.requestId? call42.addressable = some 42 := by decide +kernel

/-- **When a recorded request id is there.**  Let the locator report a call as recorded.  Its
number is the one that the counter had; the counter goes on to the next number, and 0 follows
the last one; no other number is touched.  The request id is found under its number exactly if
the number was in the table or the table had room, and else there is nothing under the
number. -/
theorem recorded_call_found_iff (kernel : Kernel) (msg : Message) {sequence requestId : UInt64}
    (h : (kernel.maps.correlate msg.addressable).1 = .recorded sequence requestId) :
    let table := kernel.maps.correlations
    let run := kernel.correlateCall msg
    let after := run.kernel.maps
    run.records = [.correlated sequence requestId] ∧
      kernel.maps.counter.get? = some sequence ∧ after.counter.get? = some (sequence + 1) ∧
      (∀ other, other ≠ sequence → after.correlations.get? other = table.get? other) ∧
      (after.correlations.get? sequence = some requestId ↔
        table.contains sequence ∨ table.isFull = false) ∧
      (after.correlations.get? sequence ≠ some requestId →
        after.correlations.get? sequence = none) := by
  intro table run after
  obtain ⟨hid, hcounter⟩ := Maps.correlate_recorded_iff.mp h
  have hrun : run.records = [.correlated sequence requestId] ∧
      after = { kernel.maps with
        correlations := table.insert sequence requestId
        counter := kernel.maps.counter.set (sequence + 1) } := by
    simp only [after, run, Kernel.correlateCall, Maps.correlate_of_some hid hcounter, table,
      and_self]
  obtain ⟨hrecords, hafter⟩ := hrun
  have hkept : ∀ other, other ≠ sequence →
      (table.insert sequence requestId).get? other = table.get? other :=
    fun other hne => Table.get?_insert_of_ne table requestId hne
  rw [hafter]
  refine ⟨hrecords, hcounter, Cell.get?_set _ (Cell.present_of_get? hcounter), hkept, ?_⟩
  dsimp only
  by_cases hroom : table.contains sequence ∨ table.isFull = false
  · have hfound := Table.get?_insert_self requestId hroom
    exact ⟨⟨fun _ => hroom, fun _ => hfound⟩, fun hlost => absurd hfound hlost⟩
  · obtain ⟨hnew, hfull⟩ := not_or.mp hroom
    rw [Bool.not_eq_true] at hnew
    rw [Bool.not_eq_false] at hfull
    have hnone : table.get? sequence = none := by
      rw [Table.contains_eq_isSome_get?] at hnew
      exact Option.isNone_iff_eq_none.mp (Option.isSome_eq_false_iff.mp hnew)
    rw [Table.insert_of_isFull requestId hnew hfull, hnone]
    simp [hroom]

/-- The last number of all is in a full table already.  Its request id is overwritten, and
the numbers start again from 0. -/
theorem recorded_call_found_lastNumber :
    let last : UInt64 := 0xFFFFFFFFFFFFFFFF
    let kernel : Kernel :=
      { maps := { correlations := (Table.empty (some 1)).put last 1, counter := .holding last } }
    let after := (kernel.correlateCall call42).kernel.maps
    (kernel.maps.correlate call42.addressable).1 = .recorded last 42 ∧
      kernel.maps.correlations.isFull ∧ after.correlations.get? last = some 42 ∧
      after.counter.get? = some 0 := by
  intro last kernel after
  have hrecorded : (kernel.maps.correlate call42.addressable).1 = .recorded last 42 := by
    decide +kernel
  obtain ⟨-, -, hcounter, -, hfound, -⟩ := recorded_call_found_iff kernel call42 hrecorded
  exact ⟨hrecorded, by decide +kernel, hfound.mpr (Or.inl (by decide +kernel)),
    hcounter.trans (by decide +kernel)⟩

/-! Calls that nothing drains -/

/-- The programs after a number of calls, from the start and without a drain. -/
def undrained : (calls : Nat) → Delivery
  | 0 => { kernel := {} }
  | calls + 1 => (undrained calls).step (.message call42)

/-- Calls alone hand nothing over. -/
theorem collector_undrained (calls : Nat) : (undrained calls).collector = {} := by
  induction calls with
  | zero => rfl
  | succ calls ih => exact ih

/-- Without a drain the map holds every call. -/
theorem Delivery.Accounts.size_undrained {calls : Nat} {requestIds : List UInt64}
    (h : (undrained calls).Accounts 0 requestIds) :
    (undrained calls).kernel.maps.correlations.size = requestIds.length := by
  have htotal := h.total
  rwa [collector_undrained, Nat.zero_add] at htotal

/-- As long as there is room, every call is recorded and stays. -/
theorem accounts_undrained {calls : Nat} (h : calls ≤ Maps.maxCorrelations) :
    (undrained calls).Accounts 0 (List.replicate calls 42) := by
  induction calls with
  | zero => exact Delivery.Accounts.start rfl rfl
  | succ calls ih =>
      have haccounts := ih (Nat.le_of_succ_le h)
      have hroom : (undrained calls).kernel.maps.correlations.size < Maps.maxCorrelations := by
        rwa [haccounts.size_undrained, List.length_replicate]
      have hcount : (List.replicate calls (42 : UInt64)).length < UInt64.size := by
        rw [List.length_replicate]
        exact Nat.lt_trans h (by decide)
      have hnext := haccounts.message_of_some requestId?_call42 hroom hcount
      rwa [← List.replicate_succ'] at hnext

/-- **A call can be reported as recorded and be lost.**  Start with empty tables and let
`Maps.maxCorrelations` calls go out before a drain.  The locator reports that it recorded the
next call, and nothing is under its number. -/
theorem recorded_call_lost :
    let kernel := (undrained Maps.maxCorrelations).kernel
    let run := kernel.correlateCall call42
    (kernel.maps.correlate call42.addressable).1 = .recorded 65535 42 ∧
      run.records = [.correlated 65535 42] ∧
      run.kernel.maps.correlations.get? 65535 = none := by
  -- The calls are not to be made one by one, so their number is only known by its name.
  obtain ⟨calls, hcalls⟩ : ∃ calls, Maps.maxCorrelations = calls := ⟨_, rfl⟩
  have hnumber : 0 + UInt64.ofNat calls = 65535 := by rw [← hcalls]; decide +kernel
  rw [hcalls, ← hnumber]
  intro kernel run
  have haccounts := accounts_undrained (Nat.le_of_eq hcalls.symm)
  have hsize := haccounts.size_undrained
  have hcounter := haccounts.counter
  have hnone := (haccounts.next_is_new (by rw [List.length_replicate, ← hcalls]; decide)).2
  rw [List.length_replicate] at hsize hcounter hnone
  have hfull : kernel.maps.correlations.isFull := by
    rw [Table.isFull, haccounts.capacity, hcalls, hsize]
    simp
  have hnew : kernel.maps.correlations.contains (0 + UInt64.ofNat calls) = false := by
    rw [Table.contains_eq_isSome_get?, hnone]
    rfl
  have houtcome := Maps.correlate_of_some requestId?_call42 hcounter
  rw [Table.insert_of_isFull 42 hnew hfull] at houtcome
  refine ⟨congrArg Prod.fst houtcome, ?_, ?_⟩
  · simp only [run, kernel, Kernel.correlateCall, houtcome]
  · simp only [run, kernel, Kernel.correlateCall, houtcome]
    exact hnone

end MeshTrace
