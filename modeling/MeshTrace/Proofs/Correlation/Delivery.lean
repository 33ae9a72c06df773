import MeshTrace.Program.Outbound
import MeshTrace.Proofs.Installation.Drain
import MeshTrace.Proofs.Maps.Table
import MeshTrace.Proofs.Report.Collector

/-!
# Every request id is delivered once

The call locator records request ids in a table that every drain empties into a collector.
Messages and drains take turns in any order (`Delivery.run`).  A drain sees the table as a
map of the system, which lists its entries in an order of its own (`HashTable.Shows`).

Whatever turns were taken, the calls are numbered one after the other, and each request id
is found under its number at one place: still in the table, or in the collector
(`Delivery.Accounts`, kept by every turn).  So a last drain leaves nothing behind, and the
report lists every call once (`correlations_delivered_once`).

A number comes again after 2⁶⁴ calls, so there must be fewer.
-/

namespace MeshTrace

/-! The numbers of the calls -/

namespace Thrift

/-- The request ids of calls, numbered from `first` on.  The numbers wrap around. -/
def numbered (first : UInt64) (requestIds : List UInt64) : List Correlation :=
  requestIds.mapIdx fun i requestId => ⟨first + UInt64.ofNat i, requestId⟩

variable {first : UInt64} {requestIds : List UInt64}

@[simp] theorem length_numbered : (numbered first requestIds).length = requestIds.length :=
  List.length_mapIdx

/-- One more request id gets the next number. -/
theorem numbered_concat (first : UInt64) (requestIds : List UInt64) (requestId : UInt64) :
    numbered first (requestIds ++ [requestId]) =
      numbered first requestIds ++ [⟨first + UInt64.ofNat requestIds.length, requestId⟩] := by
  simp [numbered, List.mapIdx_append]

/-- Two numbers less than 2⁶⁴ apart differ. -/
theorem number_inj {i j : Nat} (hi : i < UInt64.size) (hj : j < UInt64.size)
    (h : first + UInt64.ofNat i = first + UInt64.ofNat j) : i = j := by
  have hofNat : UInt64.ofNat i = UInt64.ofNat j := by simpa using h
  have htoNat := congrArg UInt64.toNat hofNat
  rwa [UInt64.toNat_ofNat_of_lt' hi, UInt64.toNat_ofNat_of_lt' hj] at htoNat

/-- The next number is a new one. -/
theorem next_not_mem_numbered (hcount : requestIds.length < UInt64.size) {c : Correlation}
    (hc : c ∈ numbered first requestIds) :
    c.sequence ≠ first + UInt64.ofNat requestIds.length := by
  obtain ⟨i, hi, rfl⟩ := List.mem_mapIdx.mp hc
  intro hsame
  have hindex := number_inj (Nat.lt_trans hi hcount) hcount hsame
  omega

/-- Up to 2 to the 64th, numbers do not come again. -/
theorem nodup_numbered (hcount : requestIds.length ≤ UInt64.size) :
    (numbered first requestIds).Nodup := by
  refine List.pairwise_iff_getElem.mpr fun i j hi hj hlt hsame => ?_
  rw [length_numbered] at hi hj
  simp only [numbered, List.getElem_mapIdx] at hsame
  have hindex := number_inj (Nat.lt_of_lt_of_le hi hcount) (Nat.lt_of_lt_of_le hj hcount)
    (congrArg Correlation.sequence hsame)
  omega

end Thrift

namespace Maps

variable {maps : Maps} {bytes : List UInt8}

/-- A message that is no call with a request id is let alone. -/
theorem correlate_of_none (h : Thrift.requestId? bytes = none) :
    maps.correlate bytes = (.pass, maps) := by
  rw [correlate, h]

/-- A call is recorded under the number that the counter holds, and the counter goes on by one. -/
theorem correlate_of_some {requestId sequence : UInt64}
    (h : Thrift.requestId? bytes = some requestId) (hcounter : maps.counter.get? = some sequence) :
    maps.correlate bytes =
      (.recorded sequence requestId,
        { maps with
          correlations := maps.correlations.insert sequence requestId
          counter := maps.counter.set (sequence + 1) }) := by
  simp only [correlate, h, hcounter]

end Maps

/-! The table as a drain sees it -/

/-- The map lists each entry of the table once.  It can be read to the end, and every entry
can be removed. -/
structure HashTable.Shows (view : HashTable UInt64) (table : Table UInt64 UInt64) : Prop where
  sizes : view.checkSizes ObjectMap.wordSize ObjectMap.wordSize = .ok ()
  entries : view.arrive.entries.Perm table.toList
  readable : view.failingWalks.contains view.walks = false
  removable : ∀ entry ∈ view.arrive.entries, entry.1 ∉ view.lasting

/-- The system has the table as its map of request ids. -/
def System.Shows (system : System) (table : Table UInt64 UInt64) : Prop :=
  ∃ view, system.object.map? MapName.correlations = some (.numbers view) ∧ view.Shows table

/-- The programs with the request ids that the system's map has. -/
def Kernel.drained (kernel : Kernel) (system : System) : Kernel :=
  match system.object.map? MapName.correlations with
  | some (.numbers view) =>
    { kernel with
      maps := { kernel.maps with
        correlations := { kernel.maps.correlations with entries := .ofList view.entries } } }
  | _ => kernel

/-! Messages and drains -/

/-- What happens in a turn: a message goes out, or a drain passes over the system. -/
inductive Turn where
  | message (msg : Message)
  | drain (system : System)

/-- The request id that is recorded in a turn, if one is. -/
def Turn.requestId? : Turn → Option UInt64
  | message msg => Thrift.requestId? msg.addressable
  | drain _ => none

/-- The request ids that are recorded, in order. -/
def Turn.requestIds (turns : List Turn) : List UInt64 :=
  turns.filterMap requestId?

/-- The programs that record, the collector, and the log records so far. -/
structure Delivery where
  kernel : Kernel
  collector : Collector := {}
  records : List KernelRecord := []

namespace Delivery

/-- One turn.  What a drain gives is added to the collector. -/
def step (delivery : Delivery) : Turn → Delivery
  | .message msg =>
    let run := delivery.kernel.correlateCall msg
    { delivery with kernel := run.kernel, records := delivery.records ++ run.records }
  | .drain system =>
    match Installation.drain.execute system with
    | (.ok batch, after) =>
      { delivery with
        kernel := delivery.kernel.drained after
        collector := delivery.collector.add batch }
    | (.error _, after) => { delivery with kernel := delivery.kernel.drained after }

def run (delivery : Delivery) (turns : List Turn) : Delivery :=
  turns.foldl step delivery

/-- There is room for what is recorded, and a drain sees the table. -/
def Admits (delivery : Delivery) : Turn → Prop
  | .message msg =>
    Thrift.requestId? msg.addressable ≠ none →
      delivery.kernel.maps.correlations.size < Maps.maxCorrelations
  | .drain system => system.Shows delivery.kernel.maps.correlations

/-- Every turn is admitted when it comes. -/
def AdmitsAll (delivery : Delivery) : List Turn → Prop
  | [] => True
  | turn :: rest => delivery.Admits turn ∧ (delivery.step turn).AdmitsAll rest

/-- **Every recorded request id is accounted for.**  It is in the table or in the collector,
but not in both. -/
structure Accounts (delivery : Delivery) (first : UInt64) (requestIds : List UInt64) : Prop where
  counter : delivery.kernel.maps.counter.get? = some (first + UInt64.ofNat requestIds.length)
  capacity : delivery.kernel.maps.correlations.capacity = some Maps.maxCorrelations
  records : delivery.records =
    (Thrift.numbered first requestIds).map fun c => .correlated c.sequence c.requestId
  held : ∀ c, c ∈ Thrift.numbered first requestIds ↔
    delivery.collector.requestId? c.sequence = some c.requestId ∨
      delivery.kernel.maps.correlations.get? c.sequence = some c.requestId
  disjoint : ∀ sequence, delivery.collector.requestId? sequence = none ∨
    delivery.kernel.maps.correlations.get? sequence = none
  total : delivery.collector.total + delivery.kernel.maps.correlations.size = requestIds.length

variable {delivery : Delivery} {first : UInt64} {requestIds : List UInt64}

/-- A message without a request id changes nothing. -/
theorem step_message_of_none {msg : Message} (h : Thrift.requestId? msg.addressable = none) :
    delivery.step (.message msg) = delivery := by
  simp only [step, Kernel.correlateCall, Maps.correlate_of_none h, List.append_nil]

/-- What a message with a request id changes, in full. -/
theorem step_message_of_some {msg : Message} {requestId sequence : UInt64}
    (h : Thrift.requestId? msg.addressable = some requestId)
    (hcounter : delivery.kernel.maps.counter.get? = some sequence) :
    delivery.step (.message msg) =
      { kernel := { delivery.kernel with
          maps := { delivery.kernel.maps with
            correlations := delivery.kernel.maps.correlations.insert sequence requestId
            counter := delivery.kernel.maps.counter.set (sequence + 1) } }
        collector := delivery.collector
        records := delivery.records ++ [.correlated sequence requestId] } := by
  simp only [step, Kernel.correlateCall, Maps.correlate_of_some h hcounter]

/-- A drain adds a listing of the table to the collector and leaves the table empty. -/
theorem step_drain {system : System} (hshows : system.Shows delivery.kernel.maps.correlations) :
    ∃ batch : List Correlation,
      (∀ c, c ∈ batch ↔
        delivery.kernel.maps.correlations.get? c.sequence = some c.requestId) ∧
      batch.length = delivery.kernel.maps.correlations.size ∧
      delivery.step (.drain system) =
        { kernel := { delivery.kernel with
            maps := { delivery.kernel.maps with
              correlations := .empty delivery.kernel.maps.correlations.capacity } }
          collector := delivery.collector.add batch
          records := delivery.records } := by
  obtain ⟨view, hmap, hview⟩ := hshows
  obtain ⟨events, hdrain⟩ := Installation.execute_drain hmap hview.sizes hview.readable
  have hleft : (view.arrive.without (view.arrive.entries.map (·.1))).entries = [] := by
    refine List.filter_eq_nil_iff.mpr fun entry hentry => ?_
    have hlasting : entry.1 ∉ view.arrive.lasting := hview.removable entry hentry
    have hdrained : entry.1 ∈ view.arrive.entries.map (·.1) := List.mem_map_of_mem hentry
    simp [hlasting, hdrained]
  refine ⟨view.arrive.entries.map fun entry => ⟨entry.1, entry.2⟩, ?_, ?_, ?_⟩
  · intro c
    rw [← Table.mem_toList, ← hview.entries.mem_iff, List.mem_map]
    constructor
    · rintro ⟨entry, hentry, rfl⟩
      exact hentry
    · intro hentry
      exact ⟨_, hentry, rfl⟩
  · rw [List.length_map, hview.entries.length_eq, Table.length_toList]
  · simp only [step, hdrain, Kernel.drained, Object.map?_withMap hmap, hleft]
    rfl

namespace Accounts

/-- Neither the table nor the collector has the next number yet. -/
theorem next_is_new (h : delivery.Accounts first requestIds)
    (hcount : requestIds.length < UInt64.size) :
    delivery.collector.requestId? (first + UInt64.ofNat requestIds.length) = none ∧
      delivery.kernel.maps.correlations.get? (first + UInt64.ofNat requestIds.length) = none := by
  have hnew : ∀ requestId, ⟨first + UInt64.ofNat requestIds.length, requestId⟩ ∉
      Thrift.numbered first requestIds :=
    fun _ hmem => Thrift.next_not_mem_numbered hcount hmem rfl
  constructor
  · refine Option.eq_none_iff_forall_ne_some.mpr fun requestId hfound => ?_
    exact hnew requestId ((h.held _).mpr (Or.inl hfound))
  · refine Option.eq_none_iff_forall_ne_some.mpr fun requestId hfound => ?_
    exact hnew requestId ((h.held _).mpr (Or.inr hfound))

/-- A call is recorded under the next number. -/
theorem message_of_some (h : delivery.Accounts first requestIds) {msg : Message}
    {requestId : UInt64} (hrequestId : Thrift.requestId? msg.addressable = some requestId)
    (hroom : delivery.kernel.maps.correlations.size < Maps.maxCorrelations)
    (hcount : requestIds.length < UInt64.size) :
    (delivery.step (.message msg)).Accounts first (requestIds ++ [requestId]) := by
  let sequence := first + UInt64.ofNat requestIds.length
  let table := delivery.kernel.maps.correlations
  obtain ⟨hcollector, htable⟩ := h.next_is_new hcount
  have hinsert : table.insert sequence requestId = table.put sequence requestId :=
    Table.insert_of_not_isFull _ _ _ (Table.isFull_eq_false_of_lt h.capacity hroom)
  rw [step_message_of_some hrequestId h.counter, hinsert]
  refine ⟨?_, h.capacity, ?_, ?_, ?_, ?_⟩
  · have hpresent := Cell.present_of_get? h.counter
    have hnext : sequence + 1 = first + UInt64.ofNat (requestIds ++ [requestId]).length := by
      rw [List.length_append, UInt64.ofNat_add, ← UInt64.add_assoc]
      rfl
    rw [← hnext]
    exact Cell.get?_set _ hpresent
  · dsimp only
    rw [h.records, Thrift.numbered_concat, List.map_append]
    rfl
  · intro c
    rw [Thrift.numbered_concat, List.mem_append, List.mem_singleton, h.held, Table.get?_put]
    obtain ⟨number, id⟩ := c
    by_cases hsequence : sequence = number
    · subst hsequence
      simp [hcollector, htable, sequence, eq_comm]
    · have hne : ¬ number = first + UInt64.ofNat requestIds.length :=
        fun hsame => hsequence hsame.symm
      simp only [if_neg hsequence, Correlation.mk.injEq, hne, false_and, or_false]
      exact Iff.rfl
  · intro other
    rw [Table.get?_put]
    by_cases hsequence : sequence = other
    · exact Or.inl (hsequence ▸ hcollector)
    · rw [if_neg hsequence]
      exact h.disjoint other
  · rw [Table.size_put_of_get?_eq_none requestId htable, List.length_append, ← h.total]
    rfl

/-- A drain gives the table to the collector. -/
theorem drain (h : delivery.Accounts first requestIds) {system : System}
    (hshows : system.Shows delivery.kernel.maps.correlations) :
    (delivery.step (.drain system)).Accounts first requestIds ∧
      ∀ sequence,
        (delivery.step (.drain system)).kernel.maps.correlations.get? sequence = none := by
  obtain ⟨batch, hlists, hlength, hstep⟩ := step_drain hshows
  rw [hstep]
  refine ⟨⟨h.counter, h.capacity, h.records, ?_, ?_, ?_⟩, fun sequence => Table.get?_empty _ _⟩
  · intro c
    dsimp only
    rw [h.held, Collector.requestId?_add_of_lists hlists, Table.get?_empty]
    rcases h.disjoint c.sequence with hnone | hnone
    · simp [hnone]
    · simp [hnone]
  · intro sequence
    exact Or.inr (Table.get?_empty _ _)
  · rw [← h.total, ← hlength]
    rfl

/-- At the start there is nothing to account for. -/
theorem start {kernel : Kernel} {first : UInt64}
    (hempty : kernel.maps.correlations = .empty (some Maps.maxCorrelations))
    (hcounter : kernel.maps.counter.get? = some first) :
    Accounts { kernel } first [] where
  counter := by simpa using hcounter
  capacity := by rw [hempty]; rfl
  records := rfl
  held := by
    intro c
    rw [hempty, Table.get?_empty]
    simp [Thrift.numbered, Collector.requestId?]
  disjoint := fun sequence => Or.inl rfl
  total := by rw [hempty]; rfl

/-- A turn that records nothing, or records one more request id. -/
theorem step (h : delivery.Accounts first requestIds) {turn : Turn} (hadmits : delivery.Admits turn)
    (hcount : (requestIds ++ turn.requestId?.toList).length < UInt64.size) :
    (delivery.step turn).Accounts first (requestIds ++ turn.requestId?.toList) := by
  cases turn with
  | drain system =>
      have hdrained := (h.drain hadmits).1
      simpa [Turn.requestId?] using hdrained
  | message msg =>
      cases hrequestId : Thrift.requestId? msg.addressable with
      | none =>
          rw [step_message_of_none hrequestId]
          simpa [Turn.requestId?, hrequestId] using h
      | some requestId =>
          simp only [Turn.requestId?, hrequestId, Option.toList_some] at hcount ⊢
          have hroom := hadmits (by simp [hrequestId])
          exact h.message_of_some hrequestId hroom
            (by rw [List.length_append] at hcount; omega)

/-- **A history of messages and drains** keeps the account, as long as no number comes again. -/
theorem run (h : delivery.Accounts first requestIds) {turns : List Turn}
    (hadmits : delivery.AdmitsAll turns)
    (hcount : (requestIds ++ Turn.requestIds turns).length < UInt64.size) :
    (delivery.run turns).Accounts first (requestIds ++ Turn.requestIds turns) := by
  induction turns generalizing delivery requestIds with
  | nil => simpa [Delivery.run, Turn.requestIds] using h
  | cons turn rest ih =>
      have hsplit : requestIds ++ Turn.requestIds (turn :: rest) =
          (requestIds ++ turn.requestId?.toList) ++ Turn.requestIds rest := by
        rw [List.append_assoc]
        unfold Turn.requestIds
        cases hturn : turn.requestId? <;> simp [hturn]
      rw [hsplit] at hcount ⊢
      have hstep := h.step hadmits.1 (by
        rw [List.length_append] at hcount
        omega)
      exact ih hstep hadmits.2 hcount

/-- After a drain everything recorded is in the collector. -/
theorem perm_of_drained (h : delivery.Accounts first requestIds)
    (hcount : requestIds.length ≤ UInt64.size)
    (hdrained : ∀ sequence, delivery.kernel.maps.correlations.get? sequence = none) :
    delivery.collector.stats.records.Perm (Thrift.numbered first requestIds) := by
  have hnodup : delivery.collector.correlations.Nodup :=
    delivery.collector.pairwise_correlations.imp fun {a b} hlt hsame => by
      subst hsame
      exact absurd hlt (UInt64.lt_irrefl _)
  refine (List.perm_ext_iff_of_nodup hnodup (Thrift.nodup_numbered hcount)).mpr fun c => ?_
  rw [Collector.mem_correlations, h.held, hdrained]
  simp

end Accounts

end Delivery

/-- **Every request id is delivered once.**  The programs start with an empty table and the
counter at `first`.  Messages and drains take turns, where the table has room for each call
and fewer than 2⁶⁴ calls come.  Then, whatever turns were taken: the calls were recorded under
`first`, `first + 1` and so on, as the log tells, and a message without a request id makes no
difference; table and collector together hold what was recorded, nothing else and nothing
twice; and once the table is drained, the statistics list all calls by number. -/
theorem correlations_delivered_once {kernel : Kernel} {first : UInt64} {turns : List Turn}
    (hempty : kernel.maps.correlations = .empty (some Maps.maxCorrelations))
    (hcounter : kernel.maps.counter.get? = some first)
    (hadmits : Delivery.AdmitsAll { kernel } turns)
    (hcount : (Turn.requestIds turns).length < UInt64.size) :
    let delivery := Delivery.run { kernel } turns
    let table := delivery.kernel.maps.correlations
    let recorded := Thrift.numbered first (Turn.requestIds turns)
    delivery.records = recorded.map (fun c => .correlated c.sequence c.requestId) ∧
      delivery.kernel.maps.counter.get? = some (first + UInt64.ofNat recorded.length) ∧
      (∀ msg : Message, Thrift.requestId? msg.addressable = none →
        delivery.step (.message msg) = delivery) ∧
      (∀ c, c ∈ recorded ↔ delivery.collector.requestId? c.sequence = some c.requestId ∨
        table.get? c.sequence = some c.requestId) ∧
      (∀ sequence, delivery.collector.requestId? sequence = none ∨
        table.get? sequence = none) ∧
      delivery.collector.total + table.size = recorded.length ∧
      ∀ system, system.Shows table →
        let records := (delivery.step (.drain system)).collector.stats.records
        records.Perm recorded ∧ records.Pairwise fun a b => a.sequence < b.sequence := by
  intro delivery table recorded
  have h : delivery.Accounts first (Turn.requestIds turns) := by
    simpa using (Delivery.Accounts.start hempty hcounter).run hadmits (by simpa using hcount)
  refine ⟨h.records, ?_, fun msg => Delivery.step_message_of_none, h.held, h.disjoint, ?_, ?_⟩
  · rw [Thrift.length_numbered]
    exact h.counter
  · rw [Thrift.length_numbered]
    exact h.total
  · intro system hshows records
    obtain ⟨hdrained, htable⟩ := h.drain hshows
    exact ⟨hdrained.perm_of_drained (Nat.le_of_lt hcount) htable,
      Collector.pairwise_correlations _⟩

/-- The numbers wrap around between two calls, and the first drain comes between them. -/
theorem correlations_delivered_once_wrapping :
    let call (requestId : UInt8) : Message := .ofBytes [0x80, 0x01, 0, 1, 0, 0, 0, 0,
      0, 0, 0, 1, 0x0A, 0, 1, 0, 0, 0, 0, 0, 0, 0, requestId]
    let last : UInt64 := 0xFFFFFFFFFFFFFFFF
    let kernel : Kernel := { maps := { Maps.bounded with counter := .holding last } }
    let shown (entries : List (UInt64 × UInt64)) : System := { object :=
      { maps := [(MapName.correlations, .numbers { keySize := 8, valueSize := 8, entries })] } }
    let turns : List Turn :=
      [.message (call 5), .drain (shown [(last, 5)]), .message (.ofBytes [0x80]),
        .message (call 9)]
    kernel.maps.correlations = .empty (some Maps.maxCorrelations) ∧
      kernel.maps.counter.get? = some last ∧ Delivery.AdmitsAll { kernel } turns ∧
      (Turn.requestIds turns).length < UInt64.size ∧
      let delivery := Delivery.run { kernel } turns
      delivery.records = [.correlated last 5, .correlated 0 9] ∧
        delivery.collector.total + delivery.kernel.maps.correlations.size = 2 ∧
        (delivery.step (.drain (shown [(0, 9)]))).collector.stats.records =
          [⟨0, 9⟩, ⟨last, 5⟩] := by
  intro call last kernel shown turns
  have hempty : kernel.maps.correlations = .empty (some Maps.maxCorrelations) := rfl
  have hcounter : kernel.maps.counter.get? = some last := rfl
  have hcount : (Turn.requestIds turns).length < UInt64.size := by decide +kernel
  have hadmits : Delivery.AdmitsAll { kernel } turns := by
    refine ⟨fun _ => by decide +kernel, ?_, fun h => absurd (by decide +kernel) h,
      fun _ => by decide +kernel, trivial⟩
    exact ⟨_, rfl, rfl, by decide +kernel, rfl, by simp⟩
  obtain ⟨hrecords, -, -, -, -, htotal, -⟩ :=
    correlations_delivered_once hempty hcounter hadmits hcount
  refine ⟨hempty, hcounter, hadmits, hcount, ?_, ?_, ?_⟩
  · exact hrecords.trans (by decide +kernel)
  · exact htotal.trans (by decide +kernel)
  · decide +kernel

end MeshTrace
