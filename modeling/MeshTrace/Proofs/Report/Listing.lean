import MeshTrace.Proofs.Report.Snapshot
import MeshTrace.Proofs.Text.TraceId
import Mathlib.Data.List.Forall2

/-!
# A snapshot lists every cached path once

The map gives its entries in an order of its own, and a snapshot brings them into the order of
the trace ids.  Where no trace has two entries only one order does (`sorted_eq_of_perm`), so the
order in which the entries came is lost.  Each line of a snapshot tells one entry
(`tells_line`), and the lines are in the order of their texts (`snapshot_lists_each_path_once`).
-/

namespace MeshTrace

/-- The line tells the entry: it spells the trace id and lists the hops that are recorded. -/
structure CachedPath.Tells (line : CachedPath) (entry : UInt64 × Path) : Prop where
  id : Text.SpellsTraceId line.traceId entry.1
  hops : line.hops = (List.range entry.2.count.toNat).filterMap entry.2.hop?

namespace PathCacheStats

variable {entries other : List (UInt64 × Path)}

/-- The line of an entry tells it. -/
theorem tells_line (entry : UInt64 × Path) : (line entry).Tells entry where
  id := Text.spells_traceId entry.1
  hops := entry.2.hops_eq_filterMap_hop?

/-! The order of the entries -/

/-- Sorting loses nothing and adds nothing. -/
theorem sorted_perm (entries : List (UInt64 × Path)) : (sorted entries).Perm entries :=
  List.mergeSort_perm entries _

/-- Sorted entries come by trace id. -/
theorem pairwise_sorted (entries : List (UInt64 × Path)) :
    (sorted entries).Pairwise fun a b => a.1 ≤ b.1 := by
  have hsorted : (sorted entries).Pairwise fun a b => decide (a.1 ≤ b.1) := by
    refine List.pairwise_mergeSort (fun a b c hab hbc => ?_) (fun a b => ?_) entries
    · rw [decide_eq_true_eq] at hab hbc ⊢
      exact UInt64.le_trans hab hbc
    · simpa using UInt64.le_total a.1 b.1
  exact hsorted.imp of_decide_eq_true

/-- Where no trace has two entries, each entry comes before those of larger ids. -/
theorem pairwise_lt_sorted (hdistinct : (entries.map (·.1)).Nodup) :
    (sorted entries).Pairwise fun a b => a.1 < b.1 := by
  have hnodup : ((sorted entries).map (·.1)).Nodup :=
    ((sorted_perm entries).map (·.1)).nodup_iff.mpr hdistinct
  have hne : (sorted entries).Pairwise fun a b => a.1 ≠ b.1 := List.pairwise_map.mp hnodup
  exact (pairwise_sorted entries).imp₂ (fun _ _ hle hne => UInt64.lt_of_le_of_ne hle hne) hne

/-- **Only one order is that of the ids.** -/
theorem sorted_eq_of_perm (hdistinct : (entries.map (·.1)).Nodup) (h : other.Perm entries) :
    sorted other = sorted entries := by
  have hother : (other.map (·.1)).Nodup := (h.map (·.1)).nodup_iff.mpr hdistinct
  have hperm : (sorted other).Perm (sorted entries) :=
    ((sorted_perm other).trans h).trans (sorted_perm entries).symm
  refine hperm.eq_of_pairwise ?_ (pairwise_lt_sorted hother) (pairwise_lt_sorted hdistinct)
  intro a b _ _ hab hba
  exact absurd hba (UInt64.lt_asymm hab)

/-- The largest count does not depend on the order. -/
theorem largestCount_eq_of_perm (h : other.Perm entries) :
    largestCount other = largestCount entries := by
  have hle : ∀ {first second : List (UInt64 × Path)}, first.Perm second →
      (largestCount first).toNat ≤ (largestCount second).toNat := by
    intro first second hperm
    refine toNat_largestCount_le_iff.mpr fun entry hentry => ?_
    exact toNat_largestCount_le_iff.mp (Nat.le_refl _) entry (hperm.mem_iff.mp hentry)
  exact UInt8.toNat_inj.mp (Nat.le_antisymm (hle h) (hle h.symm))

/-- **A snapshot lists every cached path once, by trace id.**  Let the map give some entries,
no two for one trace.  In whatever order it gives them, the snapshot is the same.  Its lines are
strictly in the order of their texts.  Each line tells one of the entries and each entry is
told by one line: its text is the sixteen hexadecimal digits that spell the trace id, and its
hops are those that the record of the trace has.  As many paths are counted as there are
entries, as far as 64 bits go. -/
theorem snapshot_lists_each_path_once (head tail : UInt32)
    (hdistinct : (entries.map (·.1)).Nodup) :
    let stats := ofSnapshot head tail entries
    (∀ other, other.Perm entries → ofSnapshot head tail other = stats) ∧
      stats.paths.Pairwise (fun a b => a.traceId < b.traceId) ∧
      (∃ listed, listed.Perm entries ∧ List.Forall₂ CachedPath.Tells stats.paths listed) ∧
      stats.cachedPaths.toNat = entries.length % UInt64.size := by
  intro stats
  refine ⟨fun other hperm => ?_, ?_, ⟨sorted entries, sorted_perm entries, ?_⟩, ?_⟩
  · simp only [stats, ofSnapshot, hperm.length_eq, largestCount_eq_of_perm hperm,
      sorted_eq_of_perm hdistinct hperm]
  · refine List.pairwise_map.mpr ((pairwise_lt_sorted hdistinct).imp fun {a b} hlt => ?_)
    exact ((tells_line a).id.lt_iff (tells_line b).id).mpr hlt
  · exact List.forall₂_map_left_iff.mpr (List.forall₂_same.mpr fun entry _ => tells_line entry)
  · exact UInt64.toNat_ofNat'

/-- The paths of two traces, the larger trace id first. -/
def twoTraces : List (UInt64 × Path) := [(0xb10a, (Path.single 1).extend 2), (0x2a, .single 7)]

/-- The smaller trace id is listed first, and the order of the map does not matter. -/
theorem snapshot_lists_each_path_once_twoTraces :
    let stats := ofSnapshot 4 6 twoTraces
    (twoTraces.map (·.1)).Nodup ∧ ofSnapshot 4 6 twoTraces.reverse = stats ∧
      stats.paths = [⟨"000000000000002a", [7]⟩, ⟨"000000000000b10a", [2, 1]⟩] ∧
      "000000000000002a" < "000000000000b10a" ∧ stats.cachedPaths = 2 := by
  intro stats
  have hdistinct : (twoTraces.map (·.1)).Nodup := by decide
  have hsorted : sorted twoTraces = [(0x2a, .single 7), (0xb10a, (Path.single 1).extend 2)] := by
    simp [sorted, twoTraces, List.mergeSort]
  have hpaths : stats.paths = [⟨"000000000000002a", [7]⟩, ⟨"000000000000b10a", [2, 1]⟩] := by
    simp only [stats, ofSnapshot, hsorted]
    decide +kernel
  obtain ⟨hsame, horder, -, hcount⟩ := snapshot_lists_each_path_once 4 6 hdistinct
  have hlt : stats.paths.Pairwise fun a b => a.traceId < b.traceId := horder
  rw [hpaths, List.pairwise_pair] at hlt
  exact ⟨hdistinct, hsame _ (List.reverse_perm _), hpaths, hlt, UInt64.toNat_inj.mp hcount⟩

end PathCacheStats

end MeshTrace
