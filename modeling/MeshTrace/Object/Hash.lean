import MeshTrace.Failure

/-!
# Hash maps of an object

A hash map of a loaded object keeps its entries in the order in which their keys came.
Programs record into it at any time; what they record shows at the next walk over the
map, so it is held as the batches that arrive before the coming walks.  Main
statements: a walk gives all entries or fails and keeps them all the same
(`entries_walk`), and removing a key removes it alone or nothing (`entries_of_remove`).
-/

namespace MeshTrace

/-- A hash map from 64-bit keys. -/
structure HashTable (α : Type) where
  /-- The number of bytes of a key. -/
  keySize : Nat := 0
  /-- The number of bytes of a value. -/
  valueSize : Nat := 0
  entries : List (UInt64 × α) := []
  /-- What is recorded before each of the coming walks. -/
  arriving : List (List (UInt64 × α)) := []
  /-- The number of walks so far. -/
  walks : Nat := 0
  /-- The walks that cannot read to the end, counted from 0. -/
  failingWalks : List Nat := []
  /-- The keys that cannot be removed. -/
  lasting : List UInt64 := []

namespace HashTable

variable {α : Type}

/-- `entries` with `value` under `key`: in the place of the key if it is there, and
else at the end. -/
def record (entries : List (UInt64 × α)) (key : UInt64) (value : α) : List (UInt64 × α) :=
  if entries.any (·.1 == key) then
    entries.map fun entry => if entry.1 == key then (key, value) else entry
  else entries ++ [(key, value)]

/-- `entries` after all of a batch is recorded. -/
def recordAll (entries batch : List (UInt64 × α)) : List (UInt64 × α) :=
  batch.foldl (fun entries entry => record entries entry.1 entry.2) entries

/-- Checks the sizes against those that a reader expects, the key's first. -/
def checkSizes (table : HashTable α) (keySize valueSize : Nat) : Except MapError Unit :=
  if table.keySize ≠ keySize then .error (.keySize table.keySize keySize)
  else if table.valueSize ≠ valueSize then .error (.valueSize table.valueSize valueSize)
  else .ok ()

/-- The map as the next walk finds it. -/
def arrive (table : HashTable α) : HashTable α :=
  { table with
    entries := recordAll table.entries (table.arriving.headD [])
    arriving := table.arriving.tail
    walks := table.walks + 1 }

/-- Reads all entries, and gives the map as it is afterwards. -/
def walk (table : HashTable α) : Except MapError (List (UInt64 × α)) × HashTable α :=
  (if table.failingWalks.contains table.walks then .error .walk else .ok table.arrive.entries,
    table.arrive)

/-- Removes a key. -/
def remove (table : HashTable α) (key : UInt64) : Except MapError (HashTable α) :=
  if table.lasting.contains key || !table.entries.any (·.1 == key) then .error .delete
  else .ok { table with entries := table.entries.filter (·.1 != key) }

/-- A walk keeps every entry, whether it can read them or not. -/
theorem entries_walk (table : HashTable α) : table.walk.2.entries = table.arrive.entries := rfl

/-- What a walk reads are all the entries. -/
theorem eq_of_walk_eq_ok {table : HashTable α} {read : List (UInt64 × α)}
    (h : table.walk.1 = .ok read) : read = table.arrive.entries := by
  simp only [walk] at h
  split at h
  · cases h
  · exact (Except.ok.inj h).symm

/-- Removing a key leaves the other entries. -/
theorem entries_of_remove {table rest : HashTable α} {key : UInt64}
    (h : table.remove key = .ok rest) :
    rest.entries = table.entries.filter (·.1 != key) := by
  simp only [remove] at h
  split at h
  · cases h
  · rw [← Except.ok.inj h]

end HashTable

end MeshTrace
