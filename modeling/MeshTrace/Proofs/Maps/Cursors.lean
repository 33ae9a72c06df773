import MeshTrace.Maps.Basic
import MeshTrace.Proofs.Maps.Table

/-!
# What a pass over the headers leaves in the maps

A pass changes no map but the cursors (`withCursor_snd`), and of these at most the
cursor of the peer it runs for.  A pass that gives no cursor to a peer without one,
and takes none away, needs no room: it stores the cursor that it ends with, also when
the table is full (`get?_withCursor`, `isFull_withCursor`).
-/

namespace MeshTrace.Maps

/-- The maps with other argument slots and cursors. -/
def scanned (maps : Maps) (args : ArgSlots) (cursors : Table UInt32 UInt8) : Maps :=
  { maps with args, cursors }

variable (maps : Maps) (peer : UInt32) {run : Option UInt8 → Scan × Option UInt8}

@[simp] theorem withCursor_fst (run : Option UInt8 → Scan × Option UInt8) :
    (maps.withCursor peer run).1 = (run (maps.cursors.get? peer)).1 := by
  unfold withCursor
  split <;> simp_all

/-- A pass changes nothing but cursors. -/
theorem withCursor_snd (run : Option UInt8 → Scan × Option UInt8) :
    ∃ cursors, (maps.withCursor peer run).2 = maps.scanned maps.args cursors := by
  unfold withCursor
  split
  · exact ⟨maps.cursors, rfl⟩
  · exact ⟨_, rfl⟩

/-- A pass does not write the argument slots. -/
@[simp] theorem args_withCursor (run : Option UInt8 → Scan × Option UInt8) :
    (maps.withCursor peer run).2.args = maps.args := by
  unfold withCursor
  split <;> rfl

/-- A pass does not read the argument slots. -/
theorem withCursor_args (args : ArgSlots) (run : Option UInt8 → Scan × Option UInt8) :
    { maps with args }.withCursor peer run =
      ((maps.withCursor peer run).1, { (maps.withCursor peer run).2 with args }) := by
  unfold withCursor
  dsimp only
  generalize run (maps.cursors.get? peer) = ended
  obtain ⟨result, _ | cursor⟩ := ended <;> rfl

variable {maps peer}

/-- A pass for one peer leaves the cursors of the others alone. -/
theorem get?_withCursor_of_ne {other : UInt32} (h : other ≠ peer) :
    (maps.withCursor peer run).2.cursors.get? other = maps.cursors.get? other := by
  unfold withCursor
  split
  · rfl
  · exact Table.get?_insert_of_ne _ _ h

variable (hrun : ∀ cursor, (run cursor).2.isSome = cursor.isSome)

include hrun

/-- A pass ends without a cursor and changes nothing, or it started with a cursor
and replaces it. -/
theorem withCursor_snd_cases (maps : Maps) (peer : UInt32) :
    ((run (maps.cursors.get? peer)).2 = none ∧ maps.cursors.get? peer = none ∧
        (maps.withCursor peer run).2 = maps) ∨
      ∃ cursor, (run (maps.cursors.get? peer)).2 = some cursor ∧
        maps.cursors.contains peer ∧
        (maps.withCursor peer run).2 =
          { maps with cursors := maps.cursors.insert peer cursor } := by
  have hsome := hrun (maps.cursors.get? peer)
  unfold withCursor
  split
  · rename_i hend
    rw [hend] at hsome
    have hnone : maps.cursors.get? peer = none := by simpa using hsome
    exact Or.inl ⟨by rw [hend], hnone, rfl⟩
  · rename_i cursor hend
    rw [hend] at hsome
    refine Or.inr ⟨cursor, by rw [hend], ?_, rfl⟩
    rw [Table.contains_eq_isSome_get?, ← hsome]
    rfl

/-- The peer's cursor is the one that the pass ended with. -/
theorem get?_withCursor (maps : Maps) (peer : UInt32) :
    (maps.withCursor peer run).2.cursors.get? peer = (run (maps.cursors.get? peer)).2 := by
  rcases withCursor_snd_cases hrun maps peer with
    ⟨hend, hnone, hmaps⟩ | ⟨cursor, hend, hcontains, hmaps⟩
  · rw [hmaps, hend, hnone]
  · rw [hmaps, hend]
    exact Table.get?_insert_self cursor (Or.inl hcontains)

/-- A pass takes no room in the table of cursors. -/
theorem isFull_withCursor (maps : Maps) (peer : UInt32) :
    (maps.withCursor peer run).2.cursors.isFull = maps.cursors.isFull := by
  rcases withCursor_snd_cases hrun maps peer with
    ⟨-, -, hmaps⟩ | ⟨cursor, -, hcontains, hmaps⟩
  · rw [hmaps]
  · rw [hmaps]
    exact Table.isFull_insert_of_contains cursor hcontains

/-- **All that a pass does.**  Its result is that of the run, and the cursor that the
run ended with is stored for the peer; there is as much room as before. -/
theorem withCursor_eq_of_result {result : Scan} (h : (maps.withCursor peer run).1 = result) :
    ∃ cursors, maps.withCursor peer run = (result, maps.scanned maps.args cursors) ∧
      run (maps.cursors.get? peer) = (result, cursors.get? peer) ∧
      cursors.isFull = maps.cursors.isFull ∧
      ∀ other, other ≠ peer → cursors.get? other = maps.cursors.get? other := by
  obtain ⟨cursors, hmaps⟩ := maps.withCursor_snd peer run
  have hcursor := get?_withCursor hrun maps peer
  have hfull := isFull_withCursor hrun maps peer
  have hother : ∀ other, other ≠ peer →
      (maps.withCursor peer run).2.cursors.get? other = maps.cursors.get? other :=
    fun other hne => get?_withCursor_of_ne hne
  rw [hmaps] at hcursor hfull hother
  refine ⟨cursors, Prod.ext h hmaps, Prod.ext ?_ hcursor.symm, hfull, hother⟩
  rw [← h, withCursor_fst]

omit hrun

/-- Only the run for the peer's own cursor counts. -/
theorem withCursor_congr {first second : Option UInt8 → Scan × Option UInt8}
    (h : first (maps.cursors.get? peer) = second (maps.cursors.get? peer)) :
    maps.withCursor peer first = maps.withCursor peer second := by
  unfold withCursor
  rw [h]

/-- Two passes end alike exactly if their runs for the peer's own cursor do. -/
theorem withCursor_eq_iff {first second : Option UInt8 → Scan × Option UInt8}
    (hfirst : ∀ cursor, (first cursor).2.isSome = cursor.isSome)
    (hsecond : ∀ cursor, (second cursor).2.isSome = cursor.isSome) :
    ((maps.withCursor peer first).1 = (maps.withCursor peer second).1 ∧
        (maps.withCursor peer first).2.cursors = (maps.withCursor peer second).2.cursors) ↔
      first (maps.cursors.get? peer) = second (maps.cursors.get? peer) := by
  constructor
  · rintro ⟨hresult, hcursors⟩
    have hcursor := congrArg (fun cursors => cursors.get? peer) hcursors
    simp only [get?_withCursor hfirst, get?_withCursor hsecond] at hcursor
    rw [withCursor_fst, withCursor_fst] at hresult
    exact Prod.ext hresult hcursor
  · intro h
    rw [withCursor_congr h]
    exact ⟨rfl, rfl⟩

/-- **Two passes in a row are one.**  The second pass runs with the cursor that the first
one stored, and stores its own over it. -/
theorem withCursor_withCursor {first second : Option UInt8 → Scan × Option UInt8}
    (hfirst : ∀ cursor, (first cursor).2.isSome = cursor.isSome)
    (hsecond : ∀ cursor, (second cursor).2.isSome = cursor.isSome) (maps : Maps)
    (peer : UInt32) :
    (maps.withCursor peer first).2.withCursor peer second =
      maps.withCursor peer fun cursor => second (first cursor).2 := by
  rcases withCursor_snd_cases hfirst maps peer with
    ⟨hend, hnone, hmaps⟩ | ⟨passed, hend, hcontains, hmaps⟩
  · rw [hmaps]
    exact withCursor_congr (by rw [hend, hnone])
  · have hcursor := get?_withCursor hfirst maps peer
    rw [hmaps, hend] at hcursor
    obtain ⟨last, hlast⟩ := Option.isSome_iff_exists.mp (hsecond (some passed))
    rw [hmaps, withCursor, withCursor, hcursor, hend]
    generalize second (some passed) = ended at hlast
    obtain ⟨result, after⟩ := ended
    obtain rfl : after = _ := hlast
    simp only [Table.insert_insert_of_contains _ _ hcontains]

end MeshTrace.Maps
