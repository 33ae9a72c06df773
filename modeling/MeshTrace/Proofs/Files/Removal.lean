import MeshTrace.Proofs.Files.Pathname
import MeshTrace.Proofs.Files.Tree

/-!
# What removing a directory removes

Ordinary names lead downwards: what they are followed to stands below where they started
(`eq_append_of_foldlM_step`).  So a pathname that is joined of a base and ordinary names
leads below the place that the base leads to (`resolve_join`).  Removing a directory
removes what stands below it, and nothing elsewhere (`get?_of_removeDirectory`).
-/

namespace MeshTrace.FileTree

variable {γ : Type} {tree after : FileTree γ} {location other : Location} {path base : String}

/-! Following ordinary names -/

/-- The name of something in a directory, and not of the directory itself or the one
above it. -/
def IsOrdinary (name : String) : Prop := name ≠ "." ∧ name ≠ ".."

/-- Where the names of a pathname lead from where it starts.  The empty pathname leads
nowhere by itself; what is joined to it starts where relative pathnames do. -/
def reach (tree : FileTree γ) (path : String) : Except FileError Location := do
  let start ← tree.origin path
  (Pathname.names path).foldlM tree.step start

/-- A pathname that is followed leads where its names do. -/
theorem reach_of_resolve (h : tree.resolve path = .ok location) :
    tree.reach path = .ok location := by
  obtain ⟨start, horigin, hfollow⟩ := of_bind_eq_ok h
  dsimp only [bind, Except.bind] at hfollow
  split at hfollow
  · cases hfollow
  · rw [reach, horigin]
    exact hfollow

/-- An ordinary name leads one place down. -/
theorem step_eq_append {name : String} (hname : IsOrdinary name) {start next : Location}
    (h : tree.step start name = .ok next) : next = start ++ [name] := by
  obtain ⟨⟨⟩, -, henter⟩ := of_bind_eq_ok h
  rw [enter, if_neg hname.1, if_neg hname.2] at henter
  split at henter
  · cases henter
  · exact (Except.ok.inj henter).symm

/-- **Ordinary names lead downwards.** -/
theorem eq_append_of_foldlM_step {names : List String} (hnames : ∀ name ∈ names, IsOrdinary name)
    {start target : Location} (h : names.foldlM tree.step start = .ok target) :
    target = start ++ names := by
  induction names generalizing start with
  | nil =>
      cases h
      rw [List.append_nil]
  | cons name rest ih =>
      obtain ⟨hname, hrest⟩ := List.forall_mem_cons.mp hnames
      obtain ⟨next, hstep, hfollow⟩ := of_bind_eq_ok h
      rw [ih hrest hfollow, step_eq_append hname hstep, List.append_assoc, List.singleton_append]

/-- A pathname that is taken is taken without what was joined to it. -/
theorem origin_of_origin_join {right : String} (hright : Pathname.isAbsolute right = false)
    {start : Location} (h : tree.origin (Pathname.join base right) = .ok start) :
    tree.origin base = .ok start := by
  have hnul : base.toList.contains '\x00' = true →
      (Pathname.join base right).toList.contains '\x00' = true := by
    rw [Pathname.toList_join hright]
    simp only [List.contains_iff_mem, List.mem_append]
    exact .inl
  have hsize : base.utf8ByteSize ≤ (Pathname.join base right).utf8ByteSize :=
    Pathname.utf8ByteSize_le_join hright
  unfold origin at h ⊢
  rw [Pathname.isAbsolute_join hright] at h
  split at h
  · cases h
  · next hnoNul =>
      split at h
      · cases h
      · next hshort =>
          rw [if_neg (mt hnul hnoNul), if_neg (by omega)]
          exact h

/-- **What is joined of a base and ordinary names leads below the base.** -/
theorem resolve_join {right : String} (hright : Pathname.isAbsolute right = false)
    (hnames : ∀ name ∈ Pathname.names right, IsOrdinary name)
    (h : tree.resolve (Pathname.join base right) = .ok location) :
    ∃ root, tree.reach base = .ok root ∧ location = root ++ Pathname.names right := by
  obtain ⟨start, horigin, hfollow⟩ := of_bind_eq_ok h
  dsimp only [bind, Except.bind] at hfollow
  split at hfollow
  · cases hfollow
  · next hpresent =>
      change (Pathname.names (Pathname.join base right)).foldlM tree.step start = .ok location
        at hfollow
      rw [Pathname.names_join hright, List.foldlM_append] at hfollow
      obtain ⟨root, hroot, hbelow⟩ := of_bind_eq_ok hfollow
      refine ⟨root, ?_, eq_append_of_foldlM_step hnames hbelow⟩
      rw [reach, origin_of_origin_join hright horigin]
      exact hroot

/-- What is found stands where the pathname leads. -/
theorem resolve_of_find {node : Node γ} (h : tree.find path = .ok (location, node)) :
    tree.resolve path = .ok location ∧ tree.get? location = some node := by
  obtain ⟨target, hresolve, h⟩ := of_bind_eq_ok h
  have hfound : target = location ∧ tree.get? target = some node := by
    dsimp only at h
    split at h
    · cases h
    · next hfile =>
        split at h
        · cases h
        · cases h
          exact ⟨rfl, hfile⟩
    · next hdirectory =>
        cases h
        exact ⟨rfl, hdirectory⟩
  obtain ⟨rfl, hnode⟩ := hfound
  exact ⟨hresolve, hnode⟩

/-! Removing -/

/-- What stands strictly below a location is cleared, and nothing else. -/
theorem get?_clear (tree : FileTree γ) (location other : Location) :
    (tree.clear location).get? other =
      if location <+: other ∧ other ≠ location then none else tree.get? other := by
  by_cases hroot : other = []
  · subst hroot
    have hnot : ¬ (location <+: [] ∧ [] ≠ location) := by
      rintro ⟨hbelow, hne⟩
      exact hne (List.prefix_nil.mp hbelow).symm
    rw [if_neg hnot]
    rfl
  · have hfilter : (other == location || !location.isPrefixOf other) = true ↔
        ¬ (location <+: other ∧ other ≠ location) := by
      by_cases heq : other = location
      · simp [heq]
      · simp [heq, ← Bool.not_eq_true]
    simp only [get?, if_neg hroot, clear, Std.ExtTreeMap.getElem?_filter']
    by_cases hbelow : location <+: other ∧ other ≠ location
    · have hdropped := Bool.eq_false_iff.mpr (mt hfilter.mp (not_not_intro hbelow))
      simp [hdropped, hbelow]
    · rw [if_neg hbelow, hfilter.mpr hbelow]
      cases tree.nodes[other]? <;> rfl

/-- Only the erased location is empty afterwards. -/
theorem get?_erase (tree : FileTree γ) (h : location ≠ []) (other : Location) :
    (tree.erase location).get? other = if other = location then none else tree.get? other := by
  by_cases hroot : other = []
  · subst hroot
    rw [if_neg (Ne.symm h)]
    rfl
  · simp only [get?, if_neg hroot, erase, Std.ExtTreeMap.getElem?_erase]
    by_cases heq : other = location
    · simp [heq]
    · simp [heq, Ne.symm heq]

/-- What a directory is removed from: the pathname leads to it, everything below it is
cleared, and it is itself removed if the pathname still leads there. -/
theorem removeDirectory_eq_ok (h : tree.removeDirectory path = .ok after) :
    ∃ location, tree.find path = .ok (location, .directory) ∧
      (after = tree.clear location ∨ after = (tree.clear location).erase location) := by
  obtain ⟨⟨location, node⟩, hfind, h⟩ := of_bind_eq_ok h
  cases node with
  | file content => cases h
  | directory =>
      refine ⟨location, hfind, ?_⟩
      dsimp only at h
      split at h
      · exact .inr (Except.ok.inj h).symm
      · exact .inl (Except.ok.inj h).symm

/-- **Removing a directory removes what stands below it, and nothing elsewhere.** -/
theorem get?_of_removeDirectory (h : tree.removeDirectory path = .ok after)
    (hfind : tree.find path = .ok (location, .directory)) (hlocation : location ≠ [])
    (hother : other ≠ location) :
    after.get? other = if location <+: other then none else tree.get? other := by
  obtain ⟨found, hfound, hafter⟩ := removeDirectory_eq_ok h
  rw [hfind] at hfound
  obtain ⟨rfl, -⟩ := Prod.mk.inj (Except.ok.inj hfound)
  have hclear : (tree.clear location).get? other =
      if location <+: other then none else tree.get? other := by
    rw [get?_clear]
    simp only [hother, ne_eq, not_false_eq_true, and_true]
  rcases hafter with rfl | rfl
  · exact hclear
  · rw [get?_erase _ hlocation, if_neg hother, hclear]

/-- A directory that is found can be removed. -/
theorem exists_removeDirectory_eq_ok (h : tree.find path = .ok (location, .directory)) :
    ∃ after, tree.removeDirectory path = .ok after := by
  rw [removeDirectory, h]
  exact ⟨_, rfl⟩

end MeshTrace.FileTree
