import MeshTrace.Files.Tree
import MeshTrace.Proofs.System

/-!
# Files that were written

A pathname is followed through directories only.  So a file that is put where no directory
stands changes neither where a pathname leads (`resolve_put`) nor what is found elsewhere,
and what is put where a pathname leads is read by it (`Takes.read`).  Where that is does not
depend on what is to be put there (`place_eq_ok_iff`).
-/

namespace MeshTrace.FileTree

variable {γ : Type} {tree : FileTree γ} {location : Location} {path : String} {content : γ}

/-- What is put at a location stands there, and nothing else changes. -/
theorem get?_put (tree : FileTree γ) {location : Location} (h : location ≠ []) (node : Node γ)
    (other : Location) :
    (tree.put location node).get? other =
      if location = other then some node else tree.get? other := by
  by_cases hother : other = []
  · subst hother
    rw [if_neg h]
    rfl
  · simp [get?, put, hother, Std.ExtTreeMap.getElem?_insert]

/-- The root is a directory. -/
theorem ne_root_of_get?_ne (h : tree.get? location ≠ some .directory) : location ≠ [] := by
  rintro rfl
  exact h rfl

/-- Exactly a directory passes as one. -/
theorem requireDirectory_eq_ok_iff :
    tree.requireDirectory location = .ok () ↔ tree.get? location = some .directory := by
  unfold requireDirectory
  split <;> simp_all

/-- A step from a directory does not see what is put where no directory stands. -/
theorem step_put (h : tree.get? location ≠ some .directory) (node : Node γ) {start next : Location}
    {name : String} (hstep : tree.step start name = .ok next) :
    (tree.put location node).step start name = .ok next := by
  obtain ⟨⟨⟩, hdirectory, henter⟩ := of_bind_eq_ok hstep
  have hstart := requireDirectory_eq_ok_iff.mp hdirectory
  have hne : location ≠ start := by
    rintro rfl
    exact h hstart
  have hkept : (tree.put location node).requireDirectory start = .ok () := by
    rw [requireDirectory_eq_ok_iff, get?_put tree (ne_root_of_get?_ne h), if_neg hne]
    exact hstart
  rw [step, hkept]
  exact henter

/-- Names lead where they led when something is put where no directory stands. -/
theorem foldlM_step_put (h : tree.get? location ≠ some .directory) (node : Node γ)
    {names : List String} {start target : Location}
    (hfollow : names.foldlM tree.step start = .ok target) :
    names.foldlM (tree.put location node).step start = .ok target := by
  induction names generalizing start with
  | nil => exact hfollow
  | cons name rest ih =>
      obtain ⟨next, hstep, hrest⟩ := of_bind_eq_ok hfollow
      rw [List.foldlM_cons, step_put h node hstep]
      exact ih hrest

/-- **A pathname leads where it led before.** -/
theorem resolve_put (h : tree.get? location ≠ some .directory) (node : Node γ) {target : Location}
    (hresolve : tree.resolve path = .ok target) :
    (tree.put location node).resolve path = .ok target := by
  obtain ⟨start, horigin, hrest⟩ := of_bind_eq_ok hresolve
  have hkept : (tree.put location node).origin path = .ok start := horigin
  rw [resolve, follow, hkept]
  dsimp only [bind, Except.bind] at hrest ⊢
  split
  · next hempty =>
      rw [if_pos hempty] at hrest
      cases hrest
  · next hempty =>
      rw [if_neg hempty] at hrest
      exact foldlM_step_put h node hrest

/-- A file can be put where the pathname leads: its directory is there, and no directory is
in the way. -/
structure Takes (tree : FileTree γ) (path : String) (location : Location) : Prop where
  directory : ∃ parent, tree.follow path (Pathname.names path).dropLast = .ok parent ∧
    tree.requireDirectory parent = .ok ()
  noSlash : Pathname.endsInSlash path = false
  resolve : tree.resolve path = .ok location
  free : tree.get? location ≠ some .directory

/-- **Where a file can be put.**  A place is given exactly if a file can be put there. -/
theorem place_eq_ok_iff : tree.place path = .ok location ↔ tree.Takes path location := by
  constructor
  · intro h
    obtain ⟨parent, hfollow, h⟩ := of_bind_eq_ok h
    obtain ⟨⟨⟩, hparent, h⟩ := of_bind_eq_ok h
    dsimp only at h
    split at h
    · cases h
    · next hslash =>
        obtain ⟨location, hresolve, h⟩ := of_bind_eq_ok h
        split at h
        · cases h
        · next hfree =>
            cases h
            have hnoSlash : Pathname.endsInSlash path = false := by simpa using hslash
            exact ⟨⟨parent, hfollow, hparent⟩, hnoSlash, hresolve, hfree⟩
  · intro h
    obtain ⟨parent, hfollow, hparent⟩ := h.directory
    simp only [place, hfollow, hparent, h.resolve, h.noSlash, bind, Except.bind]
    cases hnode : tree.get? location with
    | none => rfl
    | some node =>
        cases node with
        | directory => exact absurd hnode h.free
        | file old => rfl

/-- Whether a file can be made does not depend on its content. -/
theorem create_eq_ok_iff {after : FileTree γ} :
    tree.create path content = .ok after ↔
      ∃ location, tree.Takes path location ∧ after = tree.put location (.file content) := by
  constructor
  · intro h
    obtain ⟨location, hplace, h⟩ := of_bind_eq_ok h
    cases h
    exact ⟨location, place_eq_ok_iff.mp hplace, rfl⟩
  · rintro ⟨location, htakes, rfl⟩
    rw [create, place_eq_ok_iff.mpr htakes]
    rfl

/-- **What was put is read.** -/
theorem Takes.read (h : tree.Takes path location) (content : γ) :
    (tree.put location (.file content)).read path = .ok content := by
  have hresolve := resolve_put h.free (.file content) h.resolve
  have hnode : (tree.put location (.file content)).get? location = some (.file content) := by
    rw [get?_put tree (ne_root_of_get?_ne h.free), if_pos rfl]
  simp only [FileTree.read, find, hresolve, hnode, h.noSlash, bind, Except.bind]
  rfl

end MeshTrace.FileTree
