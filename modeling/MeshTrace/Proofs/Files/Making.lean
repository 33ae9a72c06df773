import MeshTrace.Proofs.Files.Removal

/-!
# Directories that were made

Directories and files are made only where no directory stands.  What such
changes keep is kept when several directories are made (`makeAlong_keeps`); a directory that
is found stays found (`find_put`).  So a directory that was made is found
(`find_of_makeDirectories`).
-/

namespace MeshTrace.FileTree

variable {γ : Type} {tree after : FileTree γ} {location found : Location} {path : String}

/-- A directory is found by a pathname that leads to it, with a slash at its end or without. -/
theorem find_directory_iff :
    tree.find path = .ok (found, .directory) ↔
      tree.resolve path = .ok found ∧ tree.get? found = some .directory := by
  refine ⟨resolve_of_find, ?_⟩
  rintro ⟨hresolve, hnode⟩
  simp only [find, hresolve, hnode, bind, Except.bind]
  rfl

/-- A directory stays where it is when something is put where none stands. -/
theorem get?_put_directory (hfree : tree.get? location ≠ some .directory) (node : Node γ)
    (h : tree.get? found = some .directory) :
    (tree.put location node).get? found = some .directory := by
  have hne : location ≠ found := by
    rintro rfl
    exact hfree h
  rw [get?_put tree (ne_root_of_get?_ne hfree), if_neg hne, h]

/-- A directory that is found stays found. -/
theorem find_put (hfree : tree.get? location ≠ some .directory) (node : Node γ)
    (h : tree.find path = .ok (found, .directory)) :
    (tree.put location node).find path = .ok (found, .directory) := by
  obtain ⟨hresolve, hnode⟩ := find_directory_iff.mp h
  exact find_directory_iff.mpr
    ⟨resolve_put hfree node hresolve, get?_put_directory hfree node hnode⟩

/-- What is kept when something is put where no directory stands. -/
def KeptByPuts (P : FileTree γ → Prop) : Prop :=
  ∀ (tree : FileTree γ) (location : Location) (node : Node γ),
    tree.get? location ≠ some .directory → P tree → P (tree.put location node)

theorem keptByPuts_directory (found : Location) :
    KeptByPuts fun tree : FileTree γ => tree.get? found = some .directory :=
  fun _ _ node hfree hfound => get?_put_directory hfree node hfound

theorem keptByPuts_find (path : String) (found : Location) :
    KeptByPuts fun tree : FileTree γ => tree.find path = .ok (found, .directory) :=
  fun _ _ node hfree hfound => find_put hfree node hfound

/-- Where a pathname starts from stays the same. -/
theorem keptByPuts_origin (path : String) (start : Location) :
    KeptByPuts fun tree : FileTree γ => tree.origin path = .ok start :=
  fun _ _ _ _ horigin => horigin

section

variable {P : FileTree γ → Prop} (hput : KeptByPuts P) (h : P tree)

include hput h

/-- **Making directories only puts directories where none stand.** -/
theorem makeAlong_keeps (location : Location) (made : Bool) (names : List String) :
    P (tree.makeAlong location made names).2 := by
  induction names generalizing tree location made with
  | nil => exact h
  | cons name rest ih =>
      rw [makeAlong]
      split
      · exact h
      · next next hstep =>
        split
        · exact ih h next made
        · exact h
        · next hnone => exact ih (hput tree next .directory (by simp [hnone]) h) next true

/-- Making a directory with those above it keeps what single changes keep. -/
theorem makeDirectories_keeps (path : String) : P (tree.makeDirectories path).2 := by
  rw [makeDirectories]
  split
  · exact h
  · exact makeAlong_keeps hput h _ _ _

/-- So does creating a file. -/
theorem create_keeps {content : γ} (hcreate : tree.create path content = .ok after) : P after := by
  obtain ⟨location, htakes, rfl⟩ := create_eq_ok_iff.mp hcreate
  exact hput tree location _ htakes.free h

end

/-- The names along which directories were made are followed to the last one. -/
theorem follow_of_makeAlong {made : Bool} {names : List String}
    (h : tree.makeAlong location made names = (none, after))
    (hlocation : tree.get? location = some .directory) :
    ∃ target, names.foldlM after.step location = .ok target ∧
      after.get? target = some .directory := by
  induction names generalizing tree location made with
  | nil =>
      cases h
      exact ⟨location, rfl, hlocation⟩
  | cons name rest ih =>
      have hkept : after.get? location = some .directory := by
        have hafter := makeAlong_keeps (keptByPuts_directory location) hlocation location made
          (name :: rest)
        rwa [h] at hafter
      -- The step only looks at the directory that it starts from.
      have hstep {next : Location} (hnext : tree.step location name = .ok next) :
          after.step location name = .ok next := by
        obtain ⟨⟨⟩, -, henter⟩ := of_bind_eq_ok hnext
        rw [step, requireDirectory_eq_ok_iff.mpr hkept]
        exact henter
      have hfollow {next : Location} (hnext : tree.step location name = .ok next)
          (hrest : ∃ target, rest.foldlM after.step next = .ok target ∧
            after.get? target = some .directory) :
          ∃ target, (name :: rest).foldlM after.step location = .ok target ∧
            after.get? target = some .directory := by
        rw [List.foldlM_cons, hstep hnext]
        exact hrest
      rw [makeAlong] at h
      split at h
      · cases h
      · next next hnext =>
        split at h
        · next hdirectory => exact hfollow hnext (ih h hdirectory)
        · cases h
        · next hnone =>
          have hfree : tree.get? next ≠ some .directory := by simp [hnone]
          have hmade : (tree.put next .directory).get? next = some .directory := by
            rw [get?_put tree (ne_root_of_get?_ne hfree), if_pos rfl]
          exact hfollow hnext (ih h hmade)

/-- **A directory that was made is found.** -/
theorem find_of_makeDirectories (h : tree.makeDirectories path = (none, after))
    (hnames : Pathname.names path ≠ []) :
    ∃ location, after.find path = .ok (location, .directory) := by
  rw [makeDirectories] at h
  split at h
  · cases h
  · next start horigin =>
    have hafter : after.origin path = .ok start := by
      have hkept := makeAlong_keeps (keptByPuts_origin path start) horigin start false
        (Pathname.names path)
      rwa [h] at hkept
    have hstart : tree.get? start = some .directory := by
      cases hpath : Pathname.names path with
      | nil => exact absurd hpath hnames
      | cons name rest =>
          rw [hpath, makeAlong] at h
          split at h
          · cases h
          · next hstep =>
            obtain ⟨⟨⟩, hdirectory, -⟩ := of_bind_eq_ok hstep
            exact requireDirectory_eq_ok_iff.mp hdirectory
    obtain ⟨target, hfollow, htarget⟩ := follow_of_makeAlong h hstart
    have hpresent : path.isEmpty = false := by
      refine Bool.eq_false_iff.mpr fun hempty => hnames ?_
      rw [String.isEmpty_iff.mp hempty]
      rfl
    refine ⟨target, find_directory_iff.mpr ⟨?_, htarget⟩⟩
    rw [resolve, follow, hafter]
    simp only [bind, Except.bind, hpresent]
    exact hfollow

end MeshTrace.FileTree
