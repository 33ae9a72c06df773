import MeshTrace.Proofs.Path
import MeshTrace.Report.Statistics

/-!
# The longest path of a snapshot

A snapshot takes its largest hop count from the count bytes of the records, and lists of each
record the hops that its slots hold.  The two agree exactly if no record counts more hops than
it has slots (`maxHops_eq_longest_iff`).
-/

namespace MeshTrace

namespace PathCacheStats

/-- The length of the longest list of hops, 0 if there is none. -/
def longest (stats : PathCacheStats) : Nat :=
  (stats.paths.map (·.hops.length)).max?.getD 0

variable {entries : List (UInt64 × Path)}

theorem toNat_max (a b : UInt8) : (max a b).toNat = max a.toNat b.toNat := by
  by_cases hle : a ≤ b
  · have hmax : max a b = b := if_pos hle
    rw [hmax, Nat.max_eq_right (UInt8.le_iff_toNat_le.mp hle)]
  · have hmax : max a b = a := if_neg hle
    have hlt := Nat.lt_of_not_le (mt UInt8.le_iff_toNat_le.mpr hle)
    rw [hmax, Nat.max_eq_left (Nat.le_of_lt hlt)]

/-- The largest count is within a bound exactly if every count is. -/
theorem toNat_foldl_max_le_iff (start : UInt8) {bound : Nat} :
    (entries.foldl (fun largest entry => max largest entry.2.count) start).toNat ≤ bound ↔
      start.toNat ≤ bound ∧ ∀ entry ∈ entries, entry.2.count.toNat ≤ bound := by
  induction entries generalizing start with
  | nil => simp
  | cons entry rest ih =>
      rw [List.foldl_cons, ih, toNat_max, List.forall_mem_cons, Nat.max_le, and_assoc]

/-- A bound on the largest count is one on all counts. -/
theorem toNat_largestCount_le_iff {bound : Nat} :
    (largestCount entries).toNat ≤ bound ↔ ∀ entry ∈ entries, entry.2.count.toNat ≤ bound := by
  rw [largestCount, toNat_foldl_max_le_iff]
  exact and_iff_right (Nat.zero_le bound)

/-- A bound on the longest list of hops is one on all lists. -/
theorem longest_le_iff {stats : PathCacheStats} {bound : Nat} :
    stats.longest ≤ bound ↔ ∀ path ∈ stats.paths, path.hops.length ≤ bound := by
  have hlengths : (∀ length ∈ stats.paths.map (·.hops.length), length ≤ bound) ↔
      ∀ path ∈ stats.paths, path.hops.length ≤ bound := List.forall_mem_map
  rw [← hlengths, longest]
  cases hmax : (stats.paths.map (·.hops.length)).max? with
  | none =>
      rw [List.max?_eq_none_iff.mp hmax]
      exact iff_of_true (Nat.zero_le bound) nofun
  | some largest => exact List.max?_le_iff hmax

/-- A bound on the longest list of a snapshot is one on what records count and have slots for. -/
theorem longest_ofSnapshot_le_iff {head tail : UInt32} {bound : Nat} :
    (ofSnapshot head tail entries).longest ≤ bound ↔
      ∀ entry ∈ entries, min entry.2.count.toNat pathSlots ≤ bound := by
  have hsorted : ∀ entry, entry ∈ sorted entries ↔ entry ∈ entries :=
    fun entry => (List.mergeSort_perm entries _).mem_iff
  rw [longest_le_iff, ofSnapshot, List.forall_mem_map]
  simp only [hsorted, line, Path.length_hops]

/-- No list of hops is longer than a record has slots. -/
theorem longest_ofSnapshot_le (head tail : UInt32) :
    (ofSnapshot head tail entries).longest ≤ pathSlots :=
  longest_ofSnapshot_le_iff.mpr fun _ _ => Nat.min_le_right _ _

/-- The largest count is the length of the longest list of hops, if no record counts hops that
it has no slots for. -/
theorem toNat_maxHops_ofSnapshot (head tail : UInt32)
    (h : ∀ entry ∈ entries, entry.2.count.toNat ≤ pathSlots) :
    (ofSnapshot head tail entries).maxHops.toNat = (ofSnapshot head tail entries).longest := by
  apply Nat.le_antisymm
  · refine toNat_largestCount_le_iff.mpr fun entry hentry => ?_
    have hlisted := longest_ofSnapshot_le_iff.mp
      (Nat.le_refl (ofSnapshot head tail entries).longest) entry hentry
    rwa [Nat.min_eq_left (h entry hentry)] at hlisted
  · refine longest_ofSnapshot_le_iff.mpr fun entry hentry => ?_
    have hcounted := toNat_largestCount_le_iff.mp
      (Nat.le_refl (largestCount entries).toNat) entry hentry
    exact Nat.le_trans (Nat.min_le_left _ _) hcounted

/-- **When the largest count is the length of the longest list of hops.**  A record that counts
hops without slots for them makes the count larger than any list is long. -/
theorem maxHops_eq_longest_iff (head tail : UInt32) :
    (ofSnapshot head tail entries).maxHops.toNat = (ofSnapshot head tail entries).longest ↔
      ∀ entry ∈ entries, entry.2.count.toNat ≤ pathSlots := by
  refine ⟨fun hagree => ?_, toNat_maxHops_ofSnapshot head tail⟩
  apply toNat_largestCount_le_iff.mp
  exact Nat.le_trans (Nat.le_of_eq hagree) (longest_ofSnapshot_le head tail)

end PathCacheStats

end MeshTrace
