import Std.Data.ExtTreeMap.Lemmas

/-!
# Tables

A table is a hash map with room for a fixed number of entries, or for any number.
A present key can always be overwritten; a new key is refused when the table is full.
Two tables of one capacity are equal when all their look-ups agree (`ext_get?`).
-/

namespace MeshTrace

/-- A map from keys to values with limited room. -/
structure Table (κ : Type) [Ord κ] (α : Type) where
  entries : Std.ExtTreeMap κ α := ∅
  /-- How many entries there is room for; no limit if absent. -/
  capacity : Option Nat := none

namespace Table

variable {κ : Type} [Ord κ] {α : Type}

/-- The table without entries. -/
def empty (capacity : Option Nat := none) : Table κ α := { capacity }

/-- The number of entries. -/
def size (table : Table κ α) : Nat := table.entries.size

/-- Whether there is no room for another key. -/
def isFull (table : Table κ α) : Bool :=
  table.capacity.any (· ≤ table.size)

variable [Std.TransOrd κ]

/-- The value under `key`. -/
def get? (table : Table κ α) (key : κ) : Option α := table.entries[key]?

/-- Whether `key` is present. -/
def contains (table : Table κ α) (key : κ) : Bool := table.entries.contains key

/-- Puts `value` under `key` whatever the capacity. -/
def put (table : Table κ α) (key : κ) (value : α) : Table κ α :=
  { table with entries := table.entries.insert key value }

/-- Puts `value` under `key`, unless the key is new and the table is full. -/
def insert (table : Table κ α) (key : κ) (value : α) : Table κ α :=
  if table.isFull && !table.contains key then table else table.put key value

/-- Removes `key`. -/
def erase (table : Table κ α) (key : κ) : Table κ α :=
  { table with entries := table.entries.erase key }

/-- The entries in the order of their keys. -/
def toList (table : Table κ α) : List (κ × α) := table.entries.toList

/-- Tables of one capacity with the same look-ups are the same. -/
theorem ext_get? [Std.LawfulEqOrd κ] {a b : Table κ α} (hcapacity : a.capacity = b.capacity)
    (hget : ∀ key, a.get? key = b.get? key) : a = b := by
  cases a; cases b
  simp only [get?] at hget hcapacity
  simp [hcapacity, Std.ExtTreeMap.ext_getElem? hget]

/-- An empty table holds nothing. -/
@[simp] theorem get?_empty (capacity : Option Nat) (key : κ) :
    (empty capacity : Table κ α).get? key = none := by
  simp [get?, empty]

@[simp] theorem capacity_put (table : Table κ α) (key : κ) (value : α) :
    (table.put key value).capacity = table.capacity := rfl

@[simp] theorem capacity_erase (table : Table κ α) (key : κ) :
    (table.erase key).capacity = table.capacity := rfl

/-- Putting a value changes the look-up of its key alone. -/
theorem get?_put [Std.LawfulEqOrd κ] [DecidableEq κ] (table : Table κ α) (key other : κ)
    (value : α) :
    (table.put key value).get? other = if key = other then some value else table.get? other := by
  simp [get?, put, Std.ExtTreeMap.getElem?_insert]

/-- Removing a key changes its look-up alone. -/
theorem get?_erase [Std.LawfulEqOrd κ] [DecidableEq κ] (table : Table κ α) (key other : κ) :
    (table.erase key).get? other = if key = other then none else table.get? other := by
  simp [get?, erase, Std.ExtTreeMap.getElem?_erase]

/-- There is always room for a value under a present key. -/
theorem insert_of_contains (table : Table κ α) (key : κ) (value : α)
    (h : table.contains key) : table.insert key value = table.put key value := by
  simp [insert, h]

/-- A table that is not full takes any key. -/
theorem insert_of_not_isFull (table : Table κ α) (key : κ) (value : α)
    (h : table.isFull = false) : table.insert key value = table.put key value := by
  simp [insert, h]

end Table

end MeshTrace
