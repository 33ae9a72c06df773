import MeshTrace.Maps.Table
import Mathlib.Data.List.Perm.Subperm

/-!
# What tables hold

An entry of a table that was written to is the new one or an old one, whether or not
there was room (`get?_insert_cases`).  A table has no more entries than any list
that names all its keys (`size_le_of_contains`), so a list of keys that is short of
the capacity leaves room for one more (`isFull_eq_false_of_contains`).
-/

namespace MeshTrace.Table

variable {κ : Type} [Ord κ] {α : Type}

/-- A table with fewer keys than it has room for is not full. -/
theorem isFull_eq_false_of_lt {table : Table κ α} {room : Nat}
    (hcapacity : table.capacity = some room) (h : table.size < room) : table.isFull = false := by
  simp only [isFull, hcapacity, Option.any_some, decide_eq_false_iff_not]
  omega

variable [Std.TransOrd κ]

/-- A table has the keys under which it holds something. -/
theorem contains_eq_isSome_get? (table : Table κ α) (key : κ) :
    table.contains key = (table.get? key).isSome := by
  simp [contains, get?]

@[simp] theorem capacity_insert (table : Table κ α) (key : κ) (value : α) :
    (table.insert key value).capacity = table.capacity := by
  unfold insert
  split <;> rfl

theorem length_toList (table : Table κ α) : table.toList.length = table.size :=
  Std.ExtTreeMap.length_toList

/-- A new key takes the room of one entry. -/
theorem size_put_of_get?_eq_none {table : Table κ α} {key : κ} (value : α)
    (h : table.get? key = none) : (table.put key value).size = table.size + 1 := by
  have hnew : table.entries.contains key = false := by
    rw [← contains, contains_eq_isSome_get?, h]
    rfl
  simp [size, put, Std.ExtTreeMap.size_insert, hnew]

/-- Overwriting takes no room. -/
theorem isFull_insert_of_contains {table : Table κ α} {key : κ} (value : α)
    (h : table.contains key) : (table.insert key value).isFull = table.isFull := by
  have hentry : table.entries.contains key := h
  have hsize : (table.put key value).size = table.size := by
    simp only [size, put, Std.ExtTreeMap.size_insert, if_pos hentry]
  rw [insert_of_contains _ _ _ h, isFull, isFull, hsize, capacity_put]

/-- A full table refuses a new key. -/
theorem insert_of_isFull {table : Table κ α} {key : κ} (value : α)
    (hnew : table.contains key = false) (hfull : table.isFull) :
    table.insert key value = table := by
  simp [insert, hnew, hfull]

variable [Std.LawfulEqOrd κ]

/-- The entries of a table are what is found under their keys. -/
theorem mem_toList {table : Table κ α} {key : κ} {value : α} :
    (key, value) ∈ table.toList ↔ table.get? key = some value :=
  Std.ExtTreeMap.mem_toList_iff_getElem?_eq_some

/-- What is found in a table after an attempt to write to it was written just now or
was there before. -/
theorem get?_insert_cases [DecidableEq κ] {table : Table κ α} {key other : κ}
    {value found : α} (h : (table.insert key value).get? other = some found) :
    (other = key ∧ found = value) ∨ table.get? other = some found := by
  unfold insert at h
  split at h
  · exact Or.inr h
  · rw [get?_put] at h
    split at h
    · rename_i heq
      exact Or.inl ⟨heq.symm, (Option.some.inj h).symm⟩
    · exact Or.inr h

/-- Removing a key takes nothing else away and adds nothing. -/
theorem get?_of_get?_erase [DecidableEq κ] {table : Table κ α} {key other : κ} {found : α}
    (h : (table.erase key).get? other = some found) :
    other ≠ key ∧ table.get? other = some found := by
  rw [get?_erase] at h
  split at h
  · cases h
  · rename_i hne
    exact ⟨fun heq => hne heq.symm, h⟩

/-- Writing to a key never changes what is found under another one. -/
theorem get?_insert_of_ne [DecidableEq κ] (table : Table κ α) {key other : κ} (value : α)
    (h : other ≠ key) : (table.insert key value).get? other = table.get? other := by
  unfold insert
  split
  · rfl
  · rw [get?_put, if_neg (fun heq => h heq.symm)]

/-- A value is found where it was written, if the key was present or there was room. -/
theorem get?_insert_self [DecidableEq κ] {table : Table κ α} {key : κ} (value : α)
    (h : table.contains key ∨ table.isFull = false) :
    (table.insert key value).get? key = some value := by
  rcases h with hcontains | hroom
  · rw [insert_of_contains _ _ _ hcontains, get?_put, if_pos rfl]
  · rw [insert_of_not_isFull _ _ _ hroom, get?_put, if_pos rfl]

/-- The second of two values under a present key stays. -/
theorem insert_insert_of_contains [DecidableEq κ] {table : Table κ α} {key : κ}
    (first second : α) (h : table.contains key) :
    (table.insert key first).insert key second = table.insert key second := by
  have hagain : (table.put key first).contains key := by
    rw [contains_eq_isSome_get?, get?_put, if_pos rfl]
    rfl
  rw [insert_of_contains _ _ first h, insert_of_contains _ _ second hagain,
    insert_of_contains _ _ second h]
  refine ext_get? rfl fun other => ?_
  rw [get?_put, get?_put, get?_put]
  split <;> rfl

/-- Writing what is there already changes nothing. -/
theorem insert_of_get?_eq [DecidableEq κ] {table : Table κ α} {key : κ} {value : α}
    (h : table.get? key = some value) : table.insert key value = table := by
  have hcontains : table.contains key := by
    rw [contains_eq_isSome_get?, h]
    rfl
  rw [insert_of_contains _ _ _ hcontains]
  refine ext_get? rfl fun other => ?_
  rw [get?_put]
  split
  · rename_i heq
    rw [← heq, h]
  · rfl

/-- A present key is not removed by removing another one. -/
theorem contains_of_contains_erase [DecidableEq κ] {table : Table κ α} {key other : κ}
    (h : (table.erase key).contains other) : other ≠ key ∧ table.contains other := by
  rw [contains_eq_isSome_get?, Option.isSome_iff_exists] at h
  obtain ⟨found, hfound⟩ := h
  have hkept := get?_of_get?_erase hfound
  exact ⟨hkept.1, by simp [contains_eq_isSome_get?, hkept.2]⟩

/-- A key that is present after an attempt to write was written just now or was
there before. -/
theorem contains_insert_cases [DecidableEq κ] {table : Table κ α} {key other : κ} {value : α}
    (h : (table.insert key value).contains other) : other = key ∨ table.contains other := by
  rw [contains_eq_isSome_get?, Option.isSome_iff_exists] at h
  obtain ⟨found, hfound⟩ := h
  rcases get?_insert_cases hfound with ⟨heq, _⟩ | hold
  · exact Or.inl heq
  · exact Or.inr (by simp [contains_eq_isSome_get?, hold])

/-- A present key stays whatever is written. -/
theorem contains_insert_of_contains [DecidableEq κ] {table : Table κ α} {other : κ} (key : κ)
    (value : α) (h : table.contains other) : (table.insert key value).contains other := by
  rw [contains_eq_isSome_get?] at *
  by_cases heq : other = key
  · subst heq
    rw [get?_insert_self value (Or.inl (by rwa [contains_eq_isSome_get?]))]
    rfl
  · rwa [get?_insert_of_ne _ _ heq]

/-- A table has no more entries than a list that names all its keys. -/
theorem size_le_of_contains {table : Table κ α} {keys : List κ}
    (h : ∀ key, table.contains key → key ∈ keys) : table.size ≤ keys.length := by
  have hsubset : table.entries.keys ⊆ keys := by
    intro key hkey
    exact h key (by simpa [contains] using Std.ExtTreeMap.mem_keys.mp hkey)
  have hsubperm := List.subperm_of_subset Std.ExtTreeMap.nodup_keys hsubset
  have hlength := hsubperm.length_le
  rwa [Std.ExtTreeMap.length_keys] at hlength

/-- There is room as long as fewer keys than the capacity name all entries. -/
theorem isFull_eq_false_of_contains {table : Table κ α} {keys : List κ} {room : Nat}
    (hcapacity : table.capacity = some room)
    (h : ∀ key, table.contains key → key ∈ keys) (hroom : keys.length < room) :
    table.isFull = false :=
  isFull_eq_false_of_lt hcapacity (Nat.lt_of_le_of_lt (size_le_of_contains h) hroom)

end MeshTrace.Table
