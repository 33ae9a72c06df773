import MeshTrace.Files.Tree
import MeshTrace.Text.Format

/-!
# Failures

A failure names its cause.  Its wording is a chain: what was to be done, then why it
could not be done, as far down as is known.  The chain is shown on one line, or as an
error with its causes indented below it.
-/

namespace MeshTrace

/-- Why a map of a loaded object cannot be used. -/
inductive MapError where
  | wrongType
  | keySize (found expected : Nat)
  | valueSize (found expected : Nat)
  | lookup
  | update
  | delete
  | walk
deriving Repr, DecidableEq

/-- The wording of a map error. -/
def MapError.text : MapError → String
  | wrongType => "invalid map type"
  | keySize found expected => s!"invalid key size {found}, expected {expected}"
  | valueSize found expected => s!"invalid value size {found}, expected {expected}"
  | lookup => "lookup failed"
  | update => "update failed"
  | delete => "delete failed"
  | walk => "walk failed"

/-- Why a program of a loaded object cannot be used. -/
inductive ProgramError where
  | wrongType
  | alreadyLoaded
  | notLoaded
  /-- The system refuses with a wording of its own. -/
  | refused (text : String)
deriving Repr, DecidableEq

/-- The wording of a program error. -/
def ProgramError.text : ProgramError → String
  | wrongType => "unexpected program type"
  | alreadyLoaded => "the program is already loaded"
  | notLoaded => "the program is not loaded"
  | refused text => text

/-- Why the command or one of its steps does not succeed. -/
inductive Failure where
  | noPodIdentity (cgroup : String)
  | createPinDirectory (path : String) (error : FileError)
  | removePinDirectory (path : String) (error : FileError)
  | unload (pod : String) (cause : Failure)
  | drainIntervalZero
  | serviceIdRequired
  | noObject
  | readObject (path : String) (error : FileError)
  | loadObject (reason : String)
  | mapNotFound (map : String)
  | openMap (map type : String) (error : MapError)
  | useMap (error : MapError)
  | duplicateSockets
  | openCgroup (path : String) (error : FileError)
  | programNotFound (program : String)
  | takeProgram (program type : String) (error : ProgramError)
  | loadProgram (program : String) (error : ProgramError)
  | attachToCgroup (program path : String) (error : ProgramError)
  | attachToMap (program map : String) (error : ProgramError)
  | noDescriptor (program : String) (error : ProgramError)
  | duplicateDescriptor (program : String) (error : ProgramError)
  | addToJumpTable (program map : String) (error : MapError)
  | writeMap (map : String) (error : MapError)
  | readMap (map : String) (error : MapError)
  | createOutput (path : String) (error : FileError)
  | writeOutput (path : String) (error : FileError)
  /-- The run would end after the last moment that a clock can show. -/
  | endBeyondClock
deriving Repr, DecidableEq

namespace Failure

/-- What a failure says, then its cause, the cause of that, and so on. -/
def chain : Failure → List String
  | noPodIdentity cgroup =>
    ["Cannot derive a pod identity from cgroup " ++ Text.quoted cgroup]
  | createPinDirectory path error =>
    ["Failed to create pin directory: " ++ Text.quoted path, error.text]
  | removePinDirectory path error =>
    ["Failed to remove pin directory: " ++ Text.quoted path, error.text]
  | unload pod cause => ("Failed to unload pod " ++ pod) :: cause.chain
  | drainIntervalZero => ["Drain interval must be >= 1"]
  | serviceIdRequired => ["--service-id is required for gRPC"]
  | noObject =>
    ["No eBPF object file provided. Use --ebpf-object or compile with 'embedded' feature"]
  | readObject path error =>
    ["Failed to read eBPF object file: " ++ Text.quoted path, error.text]
  | loadObject reason => ["Failed to load eBPF programs", reason]
  | mapNotFound map => [s!"{map} map not found in eBPF object"]
  | openMap map type error => [s!"Failed to open {map} as {type}", error.text]
  | useMap error => [error.text]
  | duplicateSockets => ["Failed to duplicate sockhash fd", "too many open files"]
  | openCgroup path error => ["Failed to open cgroup: " ++ Text.quoted path, error.text]
  | programNotFound program => [s!"{program} program not found in eBPF object"]
  | takeProgram program type error => [s!"Failed to get {program} as {type}", error.text]
  | loadProgram program error => [s!"Failed to load {program}", error.text]
  | attachToCgroup program path error =>
    [s!"Failed to attach {program} to " ++ Text.quoted path, error.text]
  | attachToMap program map error => [s!"Failed to attach {program} to {map}", error.text]
  | noDescriptor program error => [s!"{program} has no fd after loading", error.text]
  | duplicateDescriptor program error => [s!"Failed to duplicate fd of {program}", error.text]
  | addToJumpTable program map error => [s!"Failed to add {program} to {map}", error.text]
  | writeMap map error => [s!"Failed to write {map}", error.text]
  | readMap map error => [s!"Failed to read {map}", error.text]
  | createOutput path error =>
    ["Failed to create output file: " ++ Text.quoted path, error.text]
  | writeOutput path error =>
    ["Failed to write to output file: " ++ Text.quoted path, error.text]
  | endBeyondClock => ["overflow when adding duration to instant"]

/-- The number with which the command ends after a failure. -/
def exitCode : Failure → Nat
  | endBeyondClock => 101
  | _ => 1

/-- The failure on one line. -/
def message (failure : Failure) : String :=
  ": ".intercalate failure.chain

/-- A cause with its number. -/
def numbered (cause : String × Nat) : String :=
  Text.padLeft 5 ' ' (toString cause.2) ++ ": " ++ Text.hanging "       " cause.1

/-- The failure with its causes below it, numbered if there are several. -/
def report (failure : Failure) : String :=
  match failure.chain with
  | [] => ""
  | [text] => text
  | [text, cause] => text ++ "\n\nCaused by:\n    " ++ Text.hanging "    " cause
  | text :: causes =>
    text ++ "\n\nCaused by:\n" ++ "\n".intercalate (causes.zipIdx.map numbered)

end Failure

end MeshTrace
