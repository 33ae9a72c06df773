import MeshTrace.Proofs.Report.Collector
import Mathlib.Algebra.GroupWithZero.Nat
import Mathlib.Data.List.Nodup

/-!
# What the statistics of some batches say

A new collector gets some batches, one after the other.  The batches count one by one, the
empty ones too, and their correlations are counted together (`total_foldl_add`,
`drains_foldl_add`).  Under a number the collector has the request id that was given there last,
wherever the batches are divided (`requestId?_foldl_add`, `mem_correlations_ofBatches`).

So where every number comes once, the statistics forget in which order and in which of the
batches the correlations came (`stats_describe_batches`).
-/

namespace MeshTrace

/-- The correlation is the last one with its number. -/
def Correlation.IsLastOf (c : Correlation) (drained : List Correlation) : Prop :=
  ∃ earlier later, drained = earlier ++ c :: later ∧ ∀ other ∈ later, other.sequence ≠ c.sequence

namespace Correlation

variable {c : Correlation} {drained : List Correlation}

/-- The last one with a number was drained. -/
theorem IsLastOf.mem (h : c.IsLastOf drained) : c ∈ drained := by
  obtain ⟨earlier, later, rfl, -⟩ := h
  exact List.mem_append_right _ List.mem_cons_self

/-- The last one is the first one from the end. -/
theorem isLastOf_iff_find? :
    c.IsLastOf drained ↔ drained.reverse.find? (·.sequence == c.sequence) = some c := by
  rw [List.find?_eq_some_iff_append]
  constructor
  · rintro ⟨earlier, later, rfl, hlater⟩
    refine ⟨by simp, later.reverse, earlier.reverse, by simp, fun other hother => ?_⟩
    simpa using hlater other (List.mem_reverse.mp hother)
  · rintro ⟨-, later, earlier, hreverse, hlater⟩
    refine ⟨earlier.reverse, later.reverse, ?_, fun other hother => ?_⟩
    · rw [← List.reverse_reverse drained, hreverse]
      simp
    · simpa using hlater other (List.mem_reverse.mp hother)

/-- Whatever number was given was given last once. -/
theorem exists_isLastOf (h : c ∈ drained) :
    ∃ last : Correlation, last.IsLastOf drained ∧ last.sequence = c.sequence := by
  cases hfind : drained.reverse.find? (·.sequence == c.sequence) with
  | none =>
      have habsent := List.find?_eq_none.mp hfind c (List.mem_reverse.mpr h)
      simp at habsent
  | some last =>
      have hsequence : last.sequence = c.sequence := by simpa using List.find?_some hfind
      exact ⟨last, isLastOf_iff_find?.mpr (by rw [hsequence, hfind]), hsequence⟩

/-- Where every number comes once, each correlation is the last one with its number. -/
theorem isLastOf_iff_mem (hdistinct : (drained.map (·.sequence)).Nodup) :
    c.IsLastOf drained ↔ c ∈ drained := by
  refine ⟨IsLastOf.mem, fun hc => ?_⟩
  obtain ⟨last, hlast, hsequence⟩ := exists_isLastOf hc
  have hsame : last = c := List.inj_on_of_nodup_map hdistinct hlast.mem hc hsequence
  exact hsame ▸ hlast

end Correlation

namespace Collector

open Correlation

/-- A new collector after some batches, the first one first. -/
def ofBatches (batches : List (List Correlation)) : Collector :=
  batches.foldl add {}

variable (collector : Collector) (batches : List (List Correlation))

/-! What was collected -/

/-- Each batch adds its length to the total. -/
theorem total_foldl_add :
    (batches.foldl add collector).total = collector.total + (batches.map List.length).sum := by
  induction batches generalizing collector with
  | nil => rfl
  | cons batch rest ih =>
      rw [List.foldl_cons, ih, List.map_cons, List.sum_cons, ← Nat.add_assoc]
      rfl

/-- Each batch is one drain. -/
theorem drains_foldl_add :
    (batches.foldl add collector).drains = collector.drains + batches.length := by
  induction batches generalizing collector with
  | nil => rfl
  | cons batch rest ih =>
      rw [List.foldl_cons, ih, List.length_cons, Nat.add_comm rest.length, ← Nat.add_assoc]
      rfl

theorem total_ofBatches : (ofBatches batches).total = (batches.map List.length).sum :=
  (total_foldl_add {} batches).trans (Nat.zero_add _)

theorem drains_ofBatches : (ofBatches batches).drains = batches.length :=
  (drains_foldl_add {} batches).trans (Nat.zero_add _)

/-- **Where the batches are divided does not matter.**  All of them are looked through from the
end of the last one. -/
theorem requestId?_foldl_add (sequence : UInt64) :
    (batches.foldl add collector).requestId? sequence =
      ((batches.flatten.reverse.find? (·.sequence == sequence)).map (·.requestId)).or
        (collector.requestId? sequence) := by
  induction batches generalizing collector with
  | nil => rfl
  | cons batch rest ih =>
      rw [List.foldl_cons, ih, requestId?_add, List.flatten_cons, List.reverse_append,
        List.find?_append, Option.map_or, Option.or_assoc]

/-- **A collector lists of every number what was given there last.** -/
theorem mem_correlations_ofBatches {c : Correlation} :
    c ∈ (ofBatches batches).correlations ↔ c.IsLastOf batches.flatten := by
  rw [mem_correlations, ofBatches, requestId?_foldl_add, isLastOf_iff_find?]
  have hempty : (({} : Collector).requestId? c.sequence) = none := by simp [requestId?]
  rw [hempty, Option.or_none, Option.map_eq_some_iff]
  constructor
  · rintro ⟨found, hfound, hrequestId⟩
    have hsequence : found.sequence = c.sequence := by simpa using List.find?_some hfound
    have hsame : found = c := by
      cases found
      cases c
      simp_all
    rw [hfound, hsame]
  · exact fun hfound => ⟨c, hfound, rfl⟩

/-! The list -/

/-- No correlation is listed twice. -/
theorem nodup_correlations : collector.correlations.Nodup :=
  collector.pairwise_correlations.imp fun hlt hsame => absurd (hsame ▸ hlt) (UInt64.lt_irrefl _)

/-- What is listed tells the list. -/
theorem correlations_eq_of_mem_iff {first second : Collector}
    (h : ∀ c, c ∈ first.correlations ↔ c ∈ second.correlations) :
    first.correlations = second.correlations := by
  have hperm : first.correlations.Perm second.correlations :=
    (List.perm_ext_iff_of_nodup first.nodup_correlations second.nodup_correlations).mpr h
  refine List.Perm.eq_of_pairwise ?_ first.pairwise_correlations second.pairwise_correlations
    hperm
  intro a b _ _ hab hba
  exact absurd hba (UInt64.lt_asymm hab)

variable {batches}

/-- **In which order the correlations came does not matter** where every number comes once, nor
into which batches they were divided, if these are equally many. -/
theorem stats_ofBatches_eq_of_perm (hdistinct : (batches.flatten.map (·.sequence)).Nodup)
    {other : List (List Correlation)} (hlength : other.length = batches.length)
    (hperm : other.flatten.Perm batches.flatten) :
    (ofBatches other).stats = (ofBatches batches).stats := by
  have hdistinctOther : (other.flatten.map (·.sequence)).Nodup :=
    (hperm.map (·.sequence)).nodup_iff.mpr hdistinct
  have hrecords : (ofBatches other).correlations = (ofBatches batches).correlations := by
    refine correlations_eq_of_mem_iff fun c => ?_
    rw [mem_correlations_ofBatches, mem_correlations_ofBatches, isLastOf_iff_mem hdistinctOther,
      isLastOf_iff_mem hdistinct, hperm.mem_iff]
  have htotal : (ofBatches other).total = (ofBatches batches).total := by
    rw [total_ofBatches, total_ofBatches, ← List.length_flatten, ← List.length_flatten,
      hperm.length_eq]
  have hdrains : (ofBatches other).drains = (ofBatches batches).drains := by
    rw [drains_ofBatches, drains_ofBatches, hlength]
  simp only [Collector.stats, hrecords, htotal, hdrains]

variable (batches)

/-- **The statistics describe the batches.**  Let a new collector get some batches.  The total is
the sum of their lengths and the drains are their number, as far as 64 bits go.  The records come
by call number, each number once; the numbers are those of the batches, and each of them has the
request id that was given there last.  The first and the last number are those of the first and
of the last record, if there are any.

If no number comes twice, there are as many records as the total says, and the same correlations
in any other order, divided in any other way into as many batches, have the same statistics. -/
theorem stats_describe_batches :
    let drained := batches.flatten
    let sum := (batches.map List.length).sum
    let stats := (ofBatches batches).stats
    stats.total.toNat = sum % UInt64.size ∧
      stats.drains.toNat = batches.length % UInt64.size ∧
      stats.records.Pairwise (fun a b => a.sequence < b.sequence) ∧
      (∀ sequence, sequence ∈ stats.records.map (·.sequence) ↔
        sequence ∈ drained.map (·.sequence)) ∧
      (∀ c, c ∈ stats.records ↔ c.IsLastOf drained) ∧
      stats.first = (stats.records.map (·.sequence)).head? ∧
      stats.last = (stats.records.map (·.sequence)).getLast? ∧
      ((drained.map (·.sequence)).Nodup →
        stats.records.length = sum ∧
          ∀ other : List (List Correlation), other.length = batches.length →
            other.flatten.Perm drained → (ofBatches other).stats = stats) := by
  intro drained sum stats
  have hlast : ∀ c, c ∈ stats.records ↔ c.IsLastOf drained :=
    fun c => mem_correlations_ofBatches batches
  refine ⟨?_, ?_, pairwise_correlations _, fun sequence => ?_, hlast, ?_, ?_, fun hdistinct => ?_⟩
  · simp only [sum, ← total_ofBatches]
    exact UInt64.toNat_ofNat'
  · rw [← drains_ofBatches]
    exact UInt64.toNat_ofNat'
  · rw [List.mem_map, List.mem_map]
    constructor
    · rintro ⟨c, hc, rfl⟩
      exact ⟨c, ((hlast c).mp hc).mem, rfl⟩
    · rintro ⟨c, hc, rfl⟩
      obtain ⟨last, hgiven, hsequence⟩ := exists_isLastOf hc
      exact ⟨last, (hlast last).mpr hgiven, hsequence⟩
  · exact List.head?_map.symm
  · exact List.getLast?_map.symm
  · have hmem : ∀ c, c ∈ stats.records ↔ c ∈ drained :=
      fun c => (hlast c).trans (isLastOf_iff_mem hdistinct)
    have hperm : stats.records.Perm drained :=
      (List.perm_ext_iff_of_nodup (nodup_correlations _) hdistinct.of_map).mpr hmem
    refine ⟨by rw [hperm.length_eq, List.length_flatten], fun other hlength hother => ?_⟩
    exact stats_ofBatches_eq_of_perm hdistinct hlength hother

/-- Three correlations in three batches, one of them empty. -/
def threeBatches : List (List Correlation) := [[⟨7, 1⟩, ⟨3, 2⟩], [], [⟨5, 3⟩]]

/-- Of three correlations with numbers of their own it does not matter how they came. -/
theorem stats_describe_batches_resplit :
    let stats := (ofBatches threeBatches).stats
    (threeBatches.flatten.map (·.sequence)).Nodup ∧ stats.total = 3 ∧ stats.drains = 3 ∧
      stats.records = [⟨3, 2⟩, ⟨5, 3⟩, ⟨7, 1⟩] ∧ stats.first = some 3 ∧ stats.last = some 7 ∧
      (ofBatches [[⟨5, 3⟩], [⟨3, 2⟩, ⟨7, 1⟩], []]).stats = stats := by
  intro stats
  have hdistinct : (threeBatches.flatten.map (·.sequence)).Nodup := by decide
  have hrecords : stats.records = [⟨3, 2⟩, ⟨5, 3⟩, ⟨7, 1⟩] := by decide +kernel
  obtain ⟨htotal, hdrains, -, -, -, hfirst, hlast, hother⟩ := stats_describe_batches threeBatches
  have hfirst' : stats.first = (stats.records.map (·.sequence)).head? := hfirst
  have hlast' : stats.last = (stats.records.map (·.sequence)).getLast? := hlast
  rw [hrecords] at hfirst' hlast'
  exact ⟨hdistinct, UInt64.toNat_inj.mp htotal, UInt64.toNat_inj.mp hdrains, hrecords, hfirst',
    hlast', (hother hdistinct).2 _ rfl (by decide)⟩

end Collector

end MeshTrace
