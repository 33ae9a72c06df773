import MeshTrace.Failure

/-!
# Where a pod's maps are pinned

The maps of one pod are pinned together in a directory of the pin root.  The
directory is named for the pod: the name of its control group without slashes at
either end, cut before the first dot.
-/

namespace MeshTrace

/-- The characters of a text without slashes at its end. -/
def trimSlashesRight (text : List Char) : List Char :=
  (text.reverse.dropWhile (· == '/')).reverse

/-- The characters of a text without slashes at its start. -/
def trimSlashesLeft (text : List Char) : List Char :=
  text.dropWhile (· == '/')

/-- The pod that a control group belongs to. -/
def podIdentity (cgroup : String) : Except Failure String :=
  match (trimSlashesRight (trimSlashesLeft cgroup.toList)).takeWhile (· ≠ '.') with
  | [] => .error (.noPodIdentity cgroup)
  | pod => .ok (String.ofList pod)

/-- The places that belong to one pod. -/
structure PinLayout where
  pod : String
  /-- The directory of the pod's pinned maps. -/
  pinDirectory : String
  /-- The directory of the pod's control group. -/
  cgroupPath : String
deriving Repr, DecidableEq

namespace PinLayout

/-- The places of the pod of a control group. -/
def ofCgroup (pinRoot cgroupRoot cgroup : String) : Except Failure PinLayout := do
  let pod ← podIdentity cgroup
  return {
    pod
    pinDirectory := Pathname.join pinRoot pod
    cgroupPath := Pathname.join cgroupRoot (String.ofList (trimSlashesLeft cgroup.toList)) }

/-- Where a map is pinned. -/
def mapPath (layout : PinLayout) (map : String) : String :=
  Pathname.join layout.pinDirectory map

variable {γ : Type}

/-- Makes the pin directory, unless it is there. -/
def ensure (layout : PinLayout) (files : FileTree γ) : Option Failure × FileTree γ :=
  match files.makeDirectories layout.pinDirectory with
  | (error, files) => (error.map (.createPinDirectory layout.pinDirectory), files)

/-- Removes the pin directory with every map pinned in it. -/
def remove (layout : PinLayout) (files : FileTree γ) : Except Failure (FileTree γ) :=
  (files.removeDirectory layout.pinDirectory).mapError (.removePinDirectory layout.pinDirectory)

end PinLayout

end MeshTrace
