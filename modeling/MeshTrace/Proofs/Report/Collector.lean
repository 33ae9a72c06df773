import MeshTrace.Report.Statistics

/-!
# What a collector holds

Of all request ids that were drained under a call number a collector holds the last one
(`requestId?_add`).  It lists what it holds by call number, each number once
(`mem_correlations`, `pairwise_correlations`).
-/

namespace MeshTrace.Collector

variable {collector : Collector}

/-- After a batch, its last request id under a number counts, and without one the old request id.
-/
theorem getElem?_foldl_insert (batch : List Correlation) (records : Std.ExtTreeMap UInt64 UInt64)
    (sequence : UInt64) :
    (batch.foldl (fun records c => records.insert c.sequence c.requestId) records)[sequence]? =
      ((batch.reverse.find? (·.sequence == sequence)).map (·.requestId)).or
        records[sequence]? := by
  induction batch generalizing records with
  | nil => rfl
  | cons c rest ih =>
      rw [List.foldl_cons, ih, List.reverse_cons, List.find?_append, Std.ExtTreeMap.getElem?_insert]
      cases rest.reverse.find? (·.sequence == sequence) with
      | some later => rfl
      | none => by_cases hc : c.sequence = sequence <;> simp [hc]

/-- **The later request id counts.**  A batch is looked through from its end, and then what
was collected before. -/
theorem requestId?_add (collector : Collector) (batch : List Correlation) (sequence : UInt64) :
    (collector.add batch).requestId? sequence =
      ((batch.reverse.find? (·.sequence == sequence)).map (·.requestId)).or
        (collector.requestId? sequence) :=
  getElem?_foldl_insert batch collector.records sequence

/-- Where a batch lists a map, what the map has under a number counts. -/
theorem requestId?_add_of_lists {batch : List Correlation} {map : UInt64 → Option UInt64}
    (hlists : ∀ c, c ∈ batch ↔ map c.sequence = some c.requestId) (sequence : UInt64) :
    (collector.add batch).requestId? sequence =
      (map sequence).or (collector.requestId? sequence) := by
  rw [requestId?_add]
  cases hfind : batch.reverse.find? (·.sequence == sequence) with
  | some found =>
      have hfound : found ∈ batch := List.mem_reverse.mp (List.mem_of_find?_eq_some hfind)
      have hsequence : found.sequence = sequence := by simpa using List.find?_some hfind
      rw [← hsequence, (hlists found).mp hfound]
      rfl
  | none =>
      cases hmap : map sequence with
      | none => rfl
      | some requestId =>
          have hmem : ⟨sequence, requestId⟩ ∈ batch := (hlists ⟨sequence, requestId⟩).mpr hmap
          have habsent := List.find?_eq_none.mp hfind _ (List.mem_reverse.mpr hmem)
          simp at habsent

/-- The collected correlations are the request ids under their numbers. -/
theorem mem_correlations {c : Correlation} :
    c ∈ collector.correlations ↔ collector.requestId? c.sequence = some c.requestId := by
  rw [correlations, List.mem_map, requestId?, ← Std.ExtTreeMap.mem_toList_iff_getElem?_eq_some]
  constructor
  · rintro ⟨entry, hentry, rfl⟩
    exact hentry
  · intro hentry
    exact ⟨_, hentry, rfl⟩

/-- What is collected is listed by call number. -/
theorem pairwise_correlations (collector : Collector) :
    collector.correlations.Pairwise fun a b => a.sequence < b.sequence := by
  rw [correlations, List.pairwise_map]
  refine collector.records.ordered_keys_toList.imp fun {a b} h => ?_
  exact Std.compare_eq_lt.mp h

end MeshTrace.Collector
