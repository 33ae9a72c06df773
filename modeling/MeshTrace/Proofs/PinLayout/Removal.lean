import MeshTrace.PinLayout
import MeshTrace.Proofs.Files.Removal

/-!
# Where a pod's pin directory lies

A pod is named without dots and without a slash in front, whatever its control group is
called (`isPod_of_podIdentity`), so it leads downwards from any place (`IsPod.isOrdinary`).
The pin directory therefore lies below the pin root, and its removal touches nothing else
(`get?_of_remove`).
-/

namespace MeshTrace

open FileTree Pathname

/-! The identity of a pod -/

/-- A text without slashes at either end. -/
def trimSlashes (text : String) : List Char :=
  trimSlashesRight (trimSlashesLeft text.toList)

/-- Slashes at the end are trimmed from the end. -/
theorem trimSlashes_prefix_trimSlashesLeft (text : String) :
    trimSlashes text <+: trimSlashesLeft text.toList := by
  rw [← List.reverse_suffix, trimSlashes, trimSlashesRight, List.reverse_reverse]
  exact List.dropWhile_suffix _

/-- What is trimmed on the left does not start with a slash. -/
theorem head?_trimSlashesLeft_ne (text : List Char) : (trimSlashesLeft text).head? ≠ some '/' := by
  intro h
  have hnot := List.head?_dropWhile_not (· == '/') text
  rw [trimSlashesLeft] at h
  simp [h] at hnot

/-- The part of a control group's name that its pod is named for. -/
def podName (cgroup : String) : List Char :=
  (trimSlashes cgroup).takeWhile (· ≠ '.')

/-- A pod is named for what stands in front of the first dot, if that is not empty. -/
theorem podIdentity_eq (cgroup : String) :
    podIdentity cgroup =
      if podName cgroup = [] then .error (.noPodIdentity cgroup)
      else .ok (String.ofList (podName cgroup)) := by
  unfold podIdentity
  split
  · next hnil =>
      rw [if_pos]
      exact hnil
  · next pod hne =>
      rw [if_neg]
      · rfl
      · exact hne

/-- There is nothing to name a pod for in slashes alone, and in what has a dot in front. -/
theorem podName_eq_nil_iff {cgroup : String} :
    podName cgroup = [] ↔ trimSlashes cgroup = [] ∨ (trimSlashes cgroup).head? = some '.' := by
  rw [podName]
  cases trimSlashes cgroup with
  | nil => simp
  | cons c rest => simp [List.takeWhile_cons]

/-- The pod is a pathname that leads downwards: it is not empty, has no dot in it and does
not start with a slash. -/
structure IsPod (pod : String) : Prop where
  nonempty : pod ≠ ""
  noDot : '.' ∉ pod.toList
  relative : isAbsolute pod = false

/-- The name of a pod has no dot. -/
theorem noDot_podName (cgroup : String) : '.' ∉ podName cgroup := by
  intro h
  have hkept := List.all_eq_true.mp (List.all_takeWhile (l := trimSlashes cgroup)) '.' h
  simp at hkept

/-- The name of a pod does not start with a slash. -/
theorem head?_podName_ne (cgroup : String) : (podName cgroup).head? ≠ some '/' := by
  obtain ⟨rest, hrest⟩ : podName cgroup <+: trimSlashesLeft cgroup.toList :=
    (List.takeWhile_prefix _).trans (trimSlashes_prefix_trimSlashesLeft cgroup)
  intro h
  apply head?_trimSlashesLeft_ne cgroup.toList
  rw [← hrest, List.head?_append, h]
  rfl

/-- **A pod leads downwards**, whatever its control group is called. -/
theorem isPod_of_podIdentity {cgroup pod : String} (h : podIdentity cgroup = .ok pod) :
    IsPod pod := by
  rw [podIdentity_eq] at h
  split at h
  · cases h
  · next hne =>
      cases h
      refine ⟨?_, ?_, ?_⟩
      · intro hempty
        exact hne (by rw [← String.toList_ofList (l := podName cgroup), hempty]; rfl)
      · rw [String.toList_ofList]
        exact noDot_podName cgroup
      · rw [isAbsolute, String.toList_ofList]
        exact beq_false_of_ne (head?_podName_ne cgroup)

namespace IsPod

variable {pod : String}

/-- Every name along a pod leads one place down. -/
theorem isOrdinary (h : IsPod pod) : ∀ name ∈ names pod, IsOrdinary name := by
  intro name hname
  have hdot : '.' ∉ name.toList := fun hdot => h.noDot (mem_of_mem_names hname hdot)
  constructor
  · rintro rfl
    exact hdot (by decide)
  · rintro rfl
    exact hdot (by decide)

/-- A pod has a name along it. -/
theorem names_ne_nil (h : IsPod pod) : names pod ≠ [] :=
  Pathname.names_ne_nil h.nonempty h.relative

end IsPod

/-! The pin directory -/

namespace PinLayout

variable {γ : Type} {pinRoot cgroupRoot cgroup : String} {layout : PinLayout}
  {files after : FileTree γ}

/-- A layout has the pod of its control group and that pod's pin directory. -/
theorem ofCgroup_eq_ok (h : ofCgroup pinRoot cgroupRoot cgroup = .ok layout) :
    podIdentity cgroup = .ok layout.pod ∧ layout.pinDirectory = join pinRoot layout.pod := by
  obtain ⟨pod, hpod, hlayout⟩ := of_bind_eq_ok h
  cases hlayout
  exact ⟨hpod, rfl⟩

/-- To remove the pins is to remove the pin directory. -/
theorem remove_eq_ok_iff :
    layout.remove files = .ok after ↔ files.removeDirectory layout.pinDirectory = .ok after :=
  mapError_eq_ok_iff

/-- The layout belongs to a pod whose maps are pinned in a directory of the pin root. -/
structure LiesIn (layout : PinLayout) (pinRoot : String) : Prop where
  isPod : IsPod layout.pod
  pinDirectory : layout.pinDirectory = join pinRoot layout.pod

/-- **Every layout lies in its pin root**, whatever its control group is called. -/
theorem liesIn_of_ofCgroup (h : ofCgroup pinRoot cgroupRoot cgroup = .ok layout) :
    layout.LiesIn pinRoot :=
  ⟨isPod_of_podIdentity (ofCgroup_eq_ok h).1, (ofCgroup_eq_ok h).2⟩

/-- There is no layout if nothing but slashes stands in front of the first dot. -/
theorem ofCgroup_eq_error_iff :
    (∃ failure, ofCgroup pinRoot cgroupRoot cgroup = .error failure) ↔
      trimSlashes cgroup = [] ∨ (trimSlashes cgroup).head? = some '.' := by
  rw [← podName_eq_nil_iff, ofCgroup, podIdentity_eq]
  split
  · next hnil => simp [hnil, bind, Except.bind]
  · next hne => simp [hne, bind, Except.bind, pure, Except.pure]

namespace LiesIn

/-- The names along the pin directory. -/
theorem names_pinDirectory (h : layout.LiesIn pinRoot) :
    names layout.pinDirectory = names pinRoot ++ names layout.pod := by
  rw [h.pinDirectory, names_join h.isPod.relative]

/-- The pin directory is found below the place that the pin root leads to. -/
theorem exists_root (h : layout.LiesIn pinRoot) {location : Location} {node : Node γ}
    (hfind : files.find layout.pinDirectory = .ok (location, node)) :
    ∃ root, files.reach pinRoot = .ok root ∧ location = root ++ names layout.pod := by
  have hresolve := (resolve_of_find hfind).1
  rw [h.pinDirectory] at hresolve
  exact resolve_join h.isPod.relative h.isPod.isOrdinary hresolve

/-- The pin directory does not lie in the place of the root of all files. -/
theorem location_ne_nil (h : layout.LiesIn pinRoot) (root : Location) :
    root ++ names layout.pod ≠ [] := by
  intro hnil
  exact h.isPod.names_ne_nil (List.append_eq_nil_iff.mp hnil).2

/-- **What the removal of a pin directory removes** is what stands in it; whether the
directory itself is removed depends on the pathname. -/
theorem get?_of_remove (h : layout.LiesIn pinRoot) (hremove : layout.remove files = .ok after) :
    ∃ root, files.reach pinRoot = .ok root ∧ ∀ location, location ≠ root ++ names layout.pod →
      after.get? location =
        if root ++ names layout.pod <+: location then none else files.get? location := by
  have hremoved := remove_eq_ok_iff.mp hremove
  obtain ⟨location, hfind, -⟩ := removeDirectory_eq_ok hremoved
  obtain ⟨root, hroot, rfl⟩ := h.exists_root hfind
  refine ⟨root, hroot, fun other hother => ?_⟩
  exact get?_of_removeDirectory hremoved hfind (h.location_ne_nil root) hother

end LiesIn

end PinLayout

/-- What does not stand below a place does not stand below what lies below it either. -/
theorem not_prefix_of_not_below {root below location : Location} (hbelow : below ≠ [])
    (h : ¬ (root <+: location ∧ location ≠ root)) : ¬ root ++ below <+: location := by
  rintro ⟨rest, rfl⟩
  apply h
  rw [List.append_assoc]
  refine ⟨List.prefix_append _ _, fun heq => ?_⟩
  have hnil : below ++ rest = [] := List.append_right_eq_self.mp heq
  exact hbelow (List.append_eq_nil_iff.mp hnil).1

/-- **Unloading stays inside the pin root.**  A control group has no layout exactly if its name
without slashes at its ends is empty or starts with a dot.  Otherwise its pod is named by a
pathname without dots that leads downwards, so the pin directory goes on from the pin root
by ordinary names, at least one.  Its removal removes what stands in it, and neither the pin
root nor anything outside the pin root. -/
theorem unloading_stays_in_pinRoot (pinRoot cgroupRoot cgroup : String) :
    ((∃ failure, PinLayout.ofCgroup pinRoot cgroupRoot cgroup = .error failure) ↔
      trimSlashes cgroup = [] ∨ (trimSlashes cgroup).head? = some '.') ∧
    ∀ layout, PinLayout.ofCgroup pinRoot cgroupRoot cgroup = .ok layout →
      (layout.pod ≠ "" ∧ '.' ∉ layout.pod.toList ∧ isAbsolute layout.pod = false) ∧
      ∃ below, below ≠ [] ∧ (∀ name ∈ below, IsOrdinary name) ∧
        isAbsolute layout.pinDirectory = isAbsolute pinRoot ∧
        names layout.pinDirectory = names pinRoot ++ below ∧
        ∀ (γ : Type) (files after : FileTree γ), layout.remove files = .ok after →
          ∃ root, files.reach pinRoot = .ok root ∧
            (∀ location, ¬ (root <+: location ∧ location ≠ root) →
              after.get? location = files.get? location) ∧
            ∀ location, root ++ below <+: location → location ≠ root ++ below →
              after.get? location = none := by
  refine ⟨PinLayout.ofCgroup_eq_error_iff, fun layout hlayout => ?_⟩
  have hlies := PinLayout.liesIn_of_ofCgroup hlayout
  have hpod := hlies.isPod
  refine ⟨⟨hpod.nonempty, hpod.noDot, hpod.relative⟩, names layout.pod, hpod.names_ne_nil,
    hpod.isOrdinary, ?_, hlies.names_pinDirectory, ?_⟩
  · rw [hlies.pinDirectory, isAbsolute_join hpod.relative]
  · intro γ files after hremove
    obtain ⟨root, hroot, hafter⟩ := hlies.get?_of_remove hremove
    refine ⟨root, hroot, fun location hlocation => ?_, fun location hbelow hother => ?_⟩
    · have hnot := not_prefix_of_not_below hpod.names_ne_nil hlocation
      have hother : location ≠ root ++ names layout.pod := by
        rintro rfl
        exact hnot (List.prefix_refl _)
      rw [hafter location hother, if_neg hnot]
    · rw [hafter location hother, if_pos hbelow]

/-- A tree with a pod's pinned map and a file outside the pin root. -/
def pinnedTree : FileTree Unit :=
  (((({} : FileTree Unit).put ["etc"] (.file ())).put ["pins"] .directory).put
    ["pins", "kubepods"] .directory).put ["pins", "kubepods", "map"] (.file ())

/-- A control group whose name leads upwards behind its first dot. -/
theorem unloading_stays_in_pinRoot_upwards :
    PinLayout.ofCgroup "/pins/." "/groups" "/kubepods/../../etc" =
        .ok ⟨"kubepods/", "/pins/./kubepods/", "/groups/kubepods/../../etc"⟩ ∧
      ∃ after, PinLayout.remove ⟨"kubepods/", "/pins/./kubepods/", "/groups/kubepods/../../etc"⟩
          pinnedTree = .ok after ∧
        after.get? ["etc"] = some (.file ()) ∧ after.get? ["pins"] = some .directory ∧
        after.get? ["pins", "kubepods", "map"] = none := by
  have hlayout : PinLayout.ofCgroup "/pins/." "/groups" "/kubepods/../../etc" =
      .ok ⟨"kubepods/", "/pins/./kubepods/", "/groups/kubepods/../../etc"⟩ := rfl
  refine ⟨hlayout, ?_⟩
  obtain ⟨-, below, -, -, -, hnames, hremoval⟩ :=
    (unloading_stays_in_pinRoot "/pins/." "/groups" "/kubepods/../../etc").2 _ hlayout
  obtain rfl : below = ["kubepods"] := by
    have h : names "/pins/./kubepods/" = names "/pins/." ++ ["kubepods"] := by decide
    exact List.append_cancel_left (hnames.symm.trans h)
  obtain ⟨after, hafter⟩ : ∃ after, PinLayout.remove
      ⟨"kubepods/", "/pins/./kubepods/", "/groups/kubepods/../../etc"⟩ pinnedTree = .ok after :=
    exists_eq_ok_iff.mpr (by decide +kernel)
  obtain ⟨root, hroot, hkept, hgone⟩ := hremoval Unit pinnedTree after hafter
  obtain rfl : root = ["pins"] := by
    have h : (pinnedTree.reach "/pins/.").toOption = some ["pins"] := by decide +kernel
    rw [hroot] at h
    exact Option.some.inj h
  refine ⟨after, hafter, ?_, ?_, hgone _ (by decide) (by decide)⟩
  · rw [hkept _ (by decide)]
    decide +kernel
  · rw [hkept _ (by decide)]
    decide +kernel

end MeshTrace
