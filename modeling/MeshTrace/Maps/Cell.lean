/-!
# Cells

A cell is one slot of an array map.  It reads as zero until something is written.
A map can be missing altogether; then every look-up of its cells fails and writing
to them does nothing.
-/

namespace MeshTrace

/-- One slot of an array map. -/
@[ext] structure Cell (α : Type) where
  /-- The value written last, if any. -/
  stored : Option α := none
  /-- Whether the map is there. -/
  present : Bool := true
deriving Repr, DecidableEq

namespace Cell

variable {α : Type}

/-- A cell that holds `value`. -/
def holding (value : α) : Cell α := { stored := some value }

/-- A cell of a map that is not there. -/
def missing : Cell α := { present := false }

/-- The cell when its map is there or not. -/
def reachedIf (cell : Cell α) (present : Bool) : Cell α := { cell with present }

/-- The value in the cell, whether or not a look-up reaches it. -/
def value [OfNat α 0] (cell : Cell α) : α :=
  cell.stored.getD 0

/-- Looks the cell up. -/
def get? [OfNat α 0] (cell : Cell α) : Option α :=
  if cell.present then some cell.value else none

/-- Writes to the cell, if a look-up reaches it. -/
def set (cell : Cell α) (value : α) : Cell α :=
  if cell.present then { cell with stored := some value } else cell

/-- What was written is read. -/
theorem get?_set [OfNat α 0] {cell : Cell α} (value : α) (h : cell.present) :
    (cell.set value).get? = some value := by
  simp [set, get?, Cell.value, h]

/-- A cell that is read is there. -/
theorem present_of_get? [OfNat α 0] {cell : Cell α} {value : α}
    (h : cell.get? = some value) : cell.present := by
  unfold get? at h
  split at h
  · assumption
  · cases h

/-- Writing does not make a missing map appear. -/
@[simp] theorem present_set (cell : Cell α) (value : α) :
    (cell.set value).present = cell.present := by
  unfold set
  split <;> rfl

end Cell

end MeshTrace
