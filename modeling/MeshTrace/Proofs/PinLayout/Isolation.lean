import MeshTrace.Proofs.Files.Making
import MeshTrace.Proofs.PinLayout.Removal

/-!
# What the removal of one pod's maps leaves to another

A pod is named by a pathname, so its pin directory can stand in that of another pod, and
pods of different names can share one.  A pin directory that was made can be removed
(`LiesIn.exists_find`), and that leaves a map of another pod in place exactly if the names
of the first pod do not start those of the other one (`removal_spares_pod_iff`).
-/

namespace MeshTrace

open FileTree Pathname

/-- The name of a map, as a file of its own in a pin directory. -/
structure IsMapName (map : String) : Prop where
  nonempty : map ≠ ""
  noSlash : '/' ∉ map.toList
  isOrdinary : IsOrdinary map

namespace IsMapName

variable {map : String}

/-- The name of a map is a single name. -/
theorem names_eq (h : IsMapName map) : names map = [map] := by
  have hne : map.toList ≠ [] := fun hnil => h.nonempty (String.toList_eq_nil_iff.mp hnil)
  rw [names, pieces_eq_singleton h.noSlash]
  simp [hne]

/-- The name of a map does not start at the root. -/
theorem isAbsolute_eq (h : IsMapName map) : isAbsolute map = false := by
  rw [isAbsolute]
  cases htext : map.toList with
  | nil => rfl
  | cons c rest =>
      have hc : c ≠ '/' := by
        rintro rfl
        exact h.noSlash (by simp [htext])
      simp [hc]

end IsMapName

namespace PinLayout

variable {γ : Type} {pinRoot : String} {layout : PinLayout} {files after : FileTree γ}
  {map : String} {location : Location} {content : γ}

/-- The pin directory of the layout was made, and since then other pin directories may have
been made and maps pinned in them. -/
inductive Made (layout : PinLayout) : FileTree γ → Prop
  | made {files after : FileTree γ} (h : layout.ensure files = (none, after)) : Made layout after
  | ensure {files : FileTree γ} (h : Made layout files) (other : PinLayout) :
      Made layout (other.ensure files).2
  | pin {files after : FileTree γ} (h : Made layout files) {other : PinLayout} {map : String}
      {content : γ} (hcreate : files.create (other.mapPath map) content = .ok after) :
      Made layout after

/-- To ensure the pins is to make the pin directory. -/
theorem ensure_eq_ok_iff :
    layout.ensure files = (none, after) ↔
      files.makeDirectories layout.pinDirectory = (none, after) := by
  rw [ensure]
  cases files.makeDirectories layout.pinDirectory with
  | mk error made => cases error <;> simp

namespace LiesIn

/-- **A pin directory that was made is found**, whatever is made and pinned afterwards. -/
theorem exists_find (h : layout.LiesIn pinRoot) (hmade : Made layout files) :
    ∃ location, files.find layout.pinDirectory = .ok (location, .directory) := by
  induction hmade with
  | made hensure =>
      refine find_of_makeDirectories (ensure_eq_ok_iff.mp hensure) ?_
      rw [h.names_pinDirectory]
      exact h.location_ne_nil _
  | ensure _ other ih =>
      obtain ⟨location, hfind⟩ := ih
      exact ⟨location, makeDirectories_keeps (keptByPuts_find _ location) hfind _⟩
  | pin _ hcreate ih =>
      obtain ⟨location, hfind⟩ := ih
      exact ⟨location, create_keeps (keptByPuts_find _ location) hfind hcreate⟩

/-- The directory stands where the names of the pod lead from the pin root. -/
theorem find_pinDirectory (h : layout.LiesIn pinRoot) (hmade : Made layout files)
    {root : Location} (hroot : files.reach pinRoot = .ok root) :
    files.find layout.pinDirectory = .ok (root ++ names layout.pod, .directory) := by
  obtain ⟨location, hfind⟩ := h.exists_find hmade
  obtain ⟨found, hfound, rfl⟩ := h.exists_root hfind
  rw [hroot] at hfound
  cases hfound
  exact hfind

/-- A map stands in the directory that it was pinned in. -/
theorem location_of_find_mapPath (h : layout.LiesIn pinRoot) (hmade : Made layout files)
    {root : Location} (hroot : files.reach pinRoot = .ok root) (hmap : IsMapName map)
    {node : Node γ} (hfind : files.find (layout.mapPath map) = .ok (location, node)) :
    location = root ++ names layout.pod ++ [map] := by
  have hordinary : ∀ name ∈ names map, IsOrdinary name := by
    intro name hname
    rw [hmap.names_eq, List.mem_singleton] at hname
    rw [hname]
    exact hmap.isOrdinary
  obtain ⟨directory, hreach, hlocation⟩ :=
    resolve_join hmap.isAbsolute_eq hordinary (resolve_of_find hfind).1
  have hdirectory := (resolve_of_find (h.find_pinDirectory hmade hroot)).1
  rw [reach_of_resolve hdirectory] at hreach
  cases hreach
  rw [hlocation, hmap.names_eq]

end LiesIn

end PinLayout

/-- **Which pods the removal of a pin directory spares.**  Two pods have pin directories in
one pin root, and both were made before maps were pinned.  Then the pin directory of the first
can be removed, and a map of the second is still in place exactly if the names of the first
pod do not start the names of the second. -/
theorem removal_spares_pod_iff {γ : Type}
    {pinRoot firstRoot secondRoot firstGroup secondGroup : String} {first second : PinLayout}
    {files : FileTree γ}
    (hfirst : PinLayout.ofCgroup pinRoot firstRoot firstGroup = .ok first)
    (hsecond : PinLayout.ofCgroup pinRoot secondRoot secondGroup = .ok second)
    (hmadeFirst : PinLayout.Made first files) (hmadeSecond : PinLayout.Made second files) :
    ∃ after, first.remove files = .ok after ∧
      ∀ map, IsMapName map → ∀ location content,
        files.find (second.mapPath map) = .ok (location, .file content) →
        (after.get? location = some (.file content) ↔
          ¬ names first.pod <+: names second.pod) := by
  have hliesFirst := PinLayout.liesIn_of_ofCgroup hfirst
  have hliesSecond := PinLayout.liesIn_of_ofCgroup hsecond
  obtain ⟨directory, hfind⟩ := hliesFirst.exists_find hmadeFirst
  obtain ⟨after, hremove⟩ := exists_removeDirectory_eq_ok hfind
  rw [← PinLayout.remove_eq_ok_iff] at hremove
  refine ⟨after, hremove, fun map hmap location content hpinned => ?_⟩
  obtain ⟨root, hroot, hafter⟩ := hliesFirst.get?_of_remove hremove
  obtain rfl := hliesSecond.location_of_find_mapPath hmadeSecond hroot hmap hpinned
  have hfile := (resolve_of_find hpinned).2
  -- The place of the map is no place of a directory.
  have hother : root ++ names second.pod ++ [map] ≠ root ++ names first.pod := by
    intro heq
    have hnode := (resolve_of_find (hliesFirst.find_pinDirectory hmadeFirst hroot)).2
    rw [← heq, hfile] at hnode
    cases hnode
  have hbelow : root ++ names first.pod <+: root ++ names second.pod ++ [map] ↔
      names first.pod <+: names second.pod := by
    rw [List.prefix_concat_iff, List.prefix_append_right_inj]
    exact or_iff_right hother.symm
  rw [hafter _ hother]
  by_cases hnested : names first.pod <+: names second.pod
  · rw [if_pos (hbelow.mpr hnested)]
    simp [hnested]
  · rw [if_neg (mt hbelow.mp hnested), hfile]
    simp [hnested]

/-- The pod of a control group. -/
def outerPod : PinLayout := ⟨"kubepods", "/pins/kubepods", "/groups/kubepods.slice"⟩

/-- The pod of a control group in that of the outer pod. -/
def innerPod : PinLayout := ⟨"kubepods/pod9", "/pins/kubepods/pod9", "/groups/kubepods/pod9.scope"⟩

/-- A pod next to the inner one. -/
def siblingPod : PinLayout :=
  ⟨"kubepods/pod8", "/pins/kubepods/pod8", "/groups/kubepods/pod8.scope"⟩

/-- Files with the pin directories of another pod and of the inner pod, and a map of the
inner pod. -/
def podsTree (other : PinLayout) : FileTree Unit :=
  (innerPod.ensure (other.ensure {}).2).2.put ["pins", "kubepods", "pod9", "path_map"] (.file ())

/-- The two pin directories in `podsTree` were made before the map was pinned. -/
theorem made_podsTree {other : PinLayout} (hother : (other.ensure ({} : FileTree Unit)).1 = none)
    (hinner : (innerPod.ensure (other.ensure ({} : FileTree Unit)).2).1 = none)
    (hcreate : (innerPod.ensure (other.ensure {}).2).2.create (innerPod.mapPath "path_map") () =
      .ok (podsTree other)) :
    other.Made (podsTree other) ∧ innerPod.Made (podsTree other) := by
  have hmade : other.Made (other.ensure ({} : FileTree Unit)).2 := .made (Prod.ext hother rfl)
  exact ⟨.pin (hmade.ensure innerPod) hcreate, .pin (.made (Prod.ext hinner rfl)) hcreate⟩

/-- The removal of the maps of one of two siblings. -/
theorem removal_spares_pod_iff_siblings :
    PinLayout.ofCgroup "/pins" "/groups" "kubepods/pod8.scope" = .ok siblingPod ∧
      PinLayout.ofCgroup "/pins" "/groups" "kubepods/pod9.scope" = .ok innerPod ∧
      siblingPod.Made (podsTree siblingPod) ∧ innerPod.Made (podsTree siblingPod) ∧
      ∃ after, siblingPod.remove (podsTree siblingPod) = .ok after ∧
        after.get? ["pins", "kubepods", "pod9", "path_map"] = some (.file ()) := by
  obtain ⟨hsibling, hinner⟩ : siblingPod.Made (podsTree siblingPod) ∧
      innerPod.Made (podsTree siblingPod) := made_podsTree rfl rfl rfl
  have hlayout : PinLayout.ofCgroup "/pins" "/groups" "kubepods/pod8.scope" = .ok siblingPod := rfl
  have hinnerLayout : PinLayout.ofCgroup "/pins" "/groups" "kubepods/pod9.scope" = .ok innerPod :=
    rfl
  have hfind : (podsTree siblingPod).find (innerPod.mapPath "path_map") =
      .ok (["pins", "kubepods", "pod9", "path_map"], .file ()) :=
    eq_ok_iff_toOption.mpr (by decide +kernel)
  have hmap : IsMapName "path_map" := ⟨by decide, by decide, by decide, by decide⟩
  obtain ⟨after, hremove, hspared⟩ :=
    removal_spares_pod_iff hlayout hinnerLayout hsibling hinner
  have hstays := (hspared _ hmap _ _ hfind).mpr (by decide)
  exact ⟨hlayout, hinnerLayout, hsibling, hinner, after, hremove, hstays⟩

/-- The removal of the maps of a pod takes those of a pod in its control group. -/
theorem removal_takes_inner_pod :
    PinLayout.ofCgroup "/pins" "/groups" "kubepods.slice" = .ok outerPod ∧
      PinLayout.ofCgroup "/pins" "/groups" "kubepods/pod9.scope" = .ok innerPod ∧
      outerPod.pod ≠ innerPod.pod ∧
      outerPod.Made (podsTree outerPod) ∧ innerPod.Made (podsTree outerPod) ∧
      (podsTree outerPod).find (innerPod.mapPath "path_map") =
        .ok (["pins", "kubepods", "pod9", "path_map"], .file ()) ∧
      ∃ after, outerPod.remove (podsTree outerPod) = .ok after ∧
        after.get? ["pins", "kubepods", "pod9", "path_map"] = none := by
  obtain ⟨houter, hinner⟩ : outerPod.Made (podsTree outerPod) ∧
      innerPod.Made (podsTree outerPod) := made_podsTree rfl rfl rfl
  refine ⟨rfl, rfl, by decide, houter, hinner, eq_ok_iff_toOption.mpr (by decide +kernel), ?_⟩
  exact ⟨_, rfl, by decide +kernel⟩

end MeshTrace
