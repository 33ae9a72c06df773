import MeshTrace.Proofs.Installation.Drain

/-!
# The entries of a hash map

Recording keeps the keys of a map apart and puts nothing in but what is recorded
(`Keyed.arrive`, `mem_recordAll`).  Whether a key can be removed does not depend on what else
is removed (`isOk_remove_without`), so after all keys were tried exactly those entries are left
whose removal fails (`entries_without_all`).
-/

namespace MeshTrace

namespace HashTable

variable {α : Type} {table : HashTable α}

/-- Every key has one entry. -/
def Keyed (table : HashTable α) : Prop :=
  (table.entries.map (·.1)).Nodup

/-- A key that is recorded takes its old place or a new one at the end. -/
theorem keys_record (entries : List (UInt64 × α)) (key : UInt64) (value : α) :
    (record entries key value).map (·.1) =
      if entries.any (·.1 == key) then entries.map (·.1) else entries.map (·.1) ++ [key] := by
  unfold record
  split
  · rw [List.map_map]
    refine List.map_congr_left fun entry _ => ?_
    by_cases hkey : entry.1 = key <;> simp [hkey]
  · rw [List.map_append]
    rfl

/-- Recording one entry keeps the keys apart. -/
theorem nodup_record {entries : List (UInt64 × α)} (h : (entries.map (·.1)).Nodup) (key : UInt64)
    (value : α) : ((record entries key value).map (·.1)).Nodup := by
  rw [keys_record]
  split
  · exact h
  · rename_i hnew
    refine List.nodup_append.mpr ⟨h, List.pairwise_singleton _ key, ?_⟩
    intro old hold new hnew' hsame
    obtain ⟨entry, hentry, rfl⟩ := List.mem_map.mp hold
    rw [List.mem_singleton] at hnew'
    exact hnew (List.any_eq_true.mpr ⟨entry, hentry, by simp [hsame, hnew']⟩)

/-- Recording keeps the keys apart. -/
theorem nodup_recordAll {entries : List (UInt64 × α)} (h : (entries.map (·.1)).Nodup)
    (batch : List (UInt64 × α)) : ((recordAll entries batch).map (·.1)).Nodup := by
  induction batch generalizing entries with
  | nil => exact h
  | cons entry rest ih => exact ih (nodup_record h entry.1 entry.2)

/-- What arrives keeps the keys apart. -/
theorem Keyed.arrive (h : table.Keyed) : table.arrive.Keyed :=
  nodup_recordAll h _

/-- An entry was there before or is the one that was recorded. -/
theorem mem_record {entries : List (UInt64 × α)} {key : UInt64} {value : α}
    {entry : UInt64 × α} (h : entry ∈ record entries key value) :
    entry ∈ entries ∨ entry = (key, value) := by
  unfold record at h
  split at h
  · obtain ⟨old, hold, hentry⟩ := List.mem_map.mp h
    split at hentry
    · exact Or.inr hentry.symm
    · exact Or.inl (hentry ▸ hold)
  · simpa using h

/-- What is in the map was there before or has just been recorded. -/
theorem mem_recordAll {entries batch : List (UInt64 × α)} {entry : UInt64 × α}
    (h : entry ∈ recordAll entries batch) : entry ∈ entries ∨ entry ∈ batch := by
  induction batch generalizing entries with
  | nil => exact Or.inl h
  | cons first rest ih =>
      rcases ih h with hearlier | hlater
      · rcases mem_record hearlier with hold | rfl
        · exact Or.inl hold
        · exact Or.inr List.mem_cons_self
      · exact Or.inr (List.mem_cons_of_mem first hlater)

/-- A key is removed if it is there and does not stay for good. -/
theorem isOk_remove (table : HashTable α) (key : UInt64) :
    (table.remove key).isOk =
      (!table.lasting.contains key && table.entries.any (·.1 == key)) := by
  unfold remove
  cases table.lasting.contains key <;> cases table.entries.any (·.1 == key) <;> rfl

/-- **What a pass leaves** are the entries whose removal fails. -/
theorem entries_without_all (table : HashTable α) :
    (table.without (table.entries.map (·.1))).entries =
      table.entries.filter fun entry => !(table.remove entry.1).isOk := by
  refine List.filter_congr fun entry hentry => ?_
  have hlisted : entry.1 ∈ table.entries.map (·.1) := List.mem_map_of_mem hentry
  have hpresent : table.entries.any (·.1 == entry.1) = true :=
    List.any_eq_true.mpr ⟨entry, hentry, by simp⟩
  rw [isOk_remove, hpresent, List.contains_iff_mem.mpr hlisted]
  simp

/-- Removing one key makes no difference to the removal of another. -/
theorem isOk_remove_without {key other : UInt64} (h : other ≠ key) :
    ((table.without [key]).remove other).isOk = (table.remove other).isOk := by
  have hpresent : (table.without [key]).entries.any (·.1 == other) =
      table.entries.any (·.1 == other) := by
    rw [Bool.eq_iff_iff, List.any_eq_true, List.any_eq_true]
    constructor
    · rintro ⟨entry, hentry, hsame⟩
      exact ⟨entry, (List.mem_filter.mp hentry).1, hsame⟩
    · rintro ⟨entry, hentry, hsame⟩
      refine ⟨entry, List.mem_filter.mpr ⟨hentry, ?_⟩, hsame⟩
      rw [eq_of_beq hsame]
      simp [h]
  rw [isOk_remove, isOk_remove, hpresent]
  rfl

end HashTable

end MeshTrace
