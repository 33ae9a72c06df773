import MeshTrace.Command.Run
import MeshTrace.Object.Description
import Std.Time.Format

/-!
# The command line

The outer layer of the command.  It looks up the files that the options name, has the
run computed over described objects, and then carries out what the run changed and
shows what it logged.  Time passes as the run's schedule says, without waiting.
-/

namespace MeshTrace.Command

/-- The system's pathname of a location. -/
def pathnameOf (location : Location) : String :=
  "/" ++ "/".intercalate location

/-- The content of a file of the system. -/
def readContent (path : String) : IO Content := do
  let data ← IO.FS.readBinFile path
  match (String.fromUTF8? data).bind Object.ofDescription? with
  | some object => return .object object
  | none => return .bytes data.toList

/-- Adds to `files` what the system has at a location. -/
def lookUp (files : FileTree Content) (location : Location) : IO (FileTree Content) := do
  let path := (← IO.currentDir) / pathnameOf location
  if ← path.isDir then return files.put location .directory
  if ← path.pathExists then return files.put location (.file (← readContent path.toString))
  return files

/-- Adds what the system has along the names of a pathname. -/
def lookUpAlong (files : FileTree Content) (path : String) : IO (FileTree Content) := do
  let mut files := files
  let mut location := if Pathname.isAbsolute path then [] else files.workingDirectory
  for name in Pathname.names path do
    if let .ok next := FileTree.enter location name then
      location := next
      files ← lookUp files location
  return files

/-- Adds what the system has below a directory. -/
partial def lookUpBelow (files : FileTree Content) (location : Location) :
    IO (FileTree Content) := do
  match files.get? location with
  | some .directory =>
    let path := (← IO.currentDir) / pathnameOf location
    let mut files := files
    for entry in ← path.readDir do
      let inner := location ++ [entry.fileName]
      files ← lookUpBelow (← lookUp files inner) inner
    return files
  | _ => return files

/-- The files that a run with these options can look at. -/
def lookUpFor (options : Options) : IO (FileTree Content) := do
  let workingDirectory := Pathname.names (← IO.currentDir).toString
  let mut files ← lookUpAlong {} (pathnameOf workingDirectory)
  files := { files with workingDirectory }
  match PinLayout.ofCgroup options.pinRoot options.cgroupRoot options.cgroup with
  | .error _ => return files
  | .ok layout =>
    for path in [layout.pinDirectory, layout.cgroupPath, options.output] ++
        options.object.toList do
      files ← lookUpAlong files path
    match files.find layout.pinDirectory with
    | .ok (location, _) => lookUpBelow files location
    | .error _ => return files

/-- Carries out the difference between two states of the files. -/
def carryOut (before after : FileTree Content) : IO Unit := do
  for (location, _) in before.nodes.toList.reverse do
    if (after.get? location).isNone then
      let path := (← IO.currentDir) / pathnameOf location
      if ← path.isDir then IO.FS.removeDir path else IO.FS.removeFile path
  for (location, node) in after.nodes.toList do
    let path := pathnameOf location
    match node, before.get? location with
    | .directory, none => IO.FS.createDir path
    | .file (.bytes data), none => IO.FS.writeBinFile path data.toByteArray
    | .file (.text text), _ => IO.FS.writeFile path text
    | _, _ => pure ()

/-- The time now, for the report. -/
def timestamp : IO String := do
  let utc : Std.Time.TimeZone.Offset := .ofSeconds 0
  let now := Std.Time.PlainDateTime.ofWallTime ((← Std.Time.Timestamp.now).toWallTime utc)
  return now.format "uuuu-MM-dd'T'HH:mm:ss.SSSSSSSSS" ++ "+00:00"

/-- Runs the command and gives its exit code. -/
def main (arguments : List String) : IO UInt32 := do
  match Options.ofArguments? arguments with
  | none =>
    IO.eprintln "error: the arguments cannot be understood"
    return 2
  | some options =>
    let files ← lookUpFor options
    let (outcome, system) := (run options (← timestamp) none).execute { files }
    carryOut files system.files
    IO.print (output system)
    IO.eprint (logText options.verbose system)
    IO.eprint (failureText outcome)
    return UInt32.ofNat ((exitCode? outcome).getD 0)

end MeshTrace.Command

/-- The command. -/
def main (arguments : List String) : IO UInt32 :=
  MeshTrace.Command.main arguments
