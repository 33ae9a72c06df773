import Std.Data.ExtTreeMap.Lemmas

/-!
# Pathnames and file trees

A pathname is a text.  Joining two pathnames normalises nothing: an absolute right
side replaces the left one, and otherwise a single slash is put between them unless
one is there or the left side is empty.  What a pathname leads to depends only on its
`names`, on whether it is absolute, and on whether it ends in a slash.

A file tree holds directories and files by their location, the list of names that
leads to them from the root.  A pathname is followed name by name: every name but the
last must lead to a directory.  There are no links, so a location is reached in one
way only.

A file is opened by a pathname and takes bytes afterwards, and it may take fewer than it
is given.
-/

namespace MeshTrace

namespace Pathname

/-- Whether a pathname starts at the root. -/
def isAbsolute (path : String) : Bool :=
  path.toList.head? == some '/'

/-- Whether a pathname ends in a slash. -/
def endsInSlash (path : String) : Bool :=
  path.toList.getLast? == some '/'

/-- `right` as seen from `left`. -/
def join (left right : String) : String :=
  if isAbsolute right then right
  else if left.isEmpty || endsInSlash left then left ++ right
  else left ++ "/" ++ right

/-- The pieces of a text between slashes, empty ones included. -/
def pieces : List Char → List (List Char)
  | [] => [[]]
  | c :: rest =>
    if c = '/' then [] :: pieces rest
    else
      match pieces rest with
      | [] => [[c]]
      | piece :: more => (c :: piece) :: more

/-- The names along a pathname. -/
def names (path : String) : List String :=
  ((pieces path.toList).filter (· ≠ [])).map String.ofList

end Pathname

/-- Why an operation on files does not succeed. -/
inductive FileError where
  | notFound
  | notDirectory
  | isDirectory
  | alreadyExists
  | nameTooLong
  | tooLarge
  | noSpace
  | quotaExceeded
  | inputOutput
  /-- The pathname holds a character that ends it for the system. -/
  | nulInName
deriving Repr, DecidableEq

/-- The system's wording of a file error. -/
def FileError.text : FileError → String
  | notFound => "No such file or directory (os error 2)"
  | notDirectory => "Not a directory (os error 20)"
  | isDirectory => "Is a directory (os error 21)"
  | alreadyExists => "File exists (os error 17)"
  | nameTooLong => "File name too long (os error 36)"
  | tooLarge => "File too large (os error 27)"
  | noSpace => "No space left on device (os error 28)"
  | quotaExceeded => "Disk quota exceeded (os error 122)"
  | inputOutput => "Input/output error (os error 5)"
  | nulInName => "file name contained an unexpected NUL byte"

/-- The names that lead from the root to a directory or file. -/
abbrev Location := List String

/-- What can stand at a location. -/
inductive Node (γ : Type) where
  | directory
  | file (content : γ)
deriving Repr, DecidableEq

/-- How many bytes a file takes, and why it takes no more. -/
structure FileLimit where
  room : Nat
  error : FileError
deriving Repr, DecidableEq

/-- All directories and files, and the directory where relative pathnames start. -/
structure FileTree (γ : Type) where
  /-- What stands below the root. -/
  nodes : Std.ExtTreeMap Location (Node γ) := ∅
  workingDirectory : Location := []
  /-- The limits of the files that do not take everything. -/
  limits : Location → Option FileLimit := fun _ => none

namespace FileTree

variable {γ : Type}

/-- The largest number of bytes of a name. -/
def maxNameSize : Nat := 255

/-- The largest number of bytes of a pathname. -/
def maxPathnameSize : Nat := 4095

/-- What stands at a location.  The root is a directory. -/
def get? (tree : FileTree γ) (location : Location) : Option (Node γ) :=
  if location = [] then some .directory else tree.nodes[location]?

/-- Puts a node at a location. -/
def put (tree : FileTree γ) (location : Location) (node : Node γ) : FileTree γ :=
  { tree with nodes := tree.nodes.insert location node }

/-- Removes what stands at a location. -/
def erase (tree : FileTree γ) (location : Location) : FileTree γ :=
  { tree with nodes := tree.nodes.erase location }

/-- Removes everything below a location. -/
def clear (tree : FileTree γ) (location : Location) : FileTree γ :=
  { tree with
    nodes := tree.nodes.filter fun other _ => other == location || !location.isPrefixOf other }

/-- The location that `name` leads to from a directory. -/
def enter (location : Location) (name : String) : Except FileError Location :=
  if name = "." then .ok location
  else if name = ".." then .ok location.dropLast
  else if name.utf8ByteSize > maxNameSize then .error .nameTooLong
  else .ok (location ++ [name])

/-- Refuses a location where no directory stands. -/
def requireDirectory (tree : FileTree γ) (location : Location) : Except FileError Unit :=
  match tree.get? location with
  | some .directory => .ok ()
  | some (.file _) => .error .notDirectory
  | none => .error .notFound

/-- The location that `name` leads to, if it is looked up in a directory. -/
def step (tree : FileTree γ) (location : Location) (name : String) :
    Except FileError Location := do
  tree.requireDirectory location
  enter location name

/-- Where a pathname starts, unless the system does not take it at all. -/
def origin (tree : FileTree γ) (path : String) : Except FileError Location :=
  if path.toList.contains '\x00' then .error .nulInName
  else if path.utf8ByteSize > maxPathnameSize then .error .nameTooLong
  else .ok (if Pathname.isAbsolute path then [] else tree.workingDirectory)

/-- The location that some of the names of a pathname lead to from where it starts. -/
def follow (tree : FileTree γ) (path : String) (names : List String) :
    Except FileError Location := do
  let start ← tree.origin path
  if path.isEmpty then throw .notFound
  names.foldlM tree.step start

/-- The location that a pathname leads to.  Something need not stand there. -/
def resolve (tree : FileTree γ) (path : String) : Except FileError Location :=
  tree.follow path (Pathname.names path)

/-- The location and the node that a pathname leads to.  With a slash at its end it
must lead to a directory. -/
def find (tree : FileTree γ) (path : String) : Except FileError (Location × Node γ) := do
  let location ← tree.resolve path
  match tree.get? location with
  | none => throw .notFound
  | some (.file content) =>
    if Pathname.endsInSlash path then throw .notDirectory
    return (location, .file content)
  | some .directory => return (location, .directory)

/-- Whether a pathname leads to anything. -/
def leads (tree : FileTree γ) (path : String) : Bool :=
  (tree.find path).toOption.isSome

/-- The content of a file. -/
def read (tree : FileTree γ) (path : String) : Except FileError γ := do
  match ← tree.find path with
  | (_, .file content) => return content
  | (_, .directory) => throw .isDirectory

/-- The location where a file can be made or replaced.  A slash at the end of the pathname
is refused as soon as the directory is found, before the last name is looked at. -/
def place (tree : FileTree γ) (path : String) : Except FileError Location := do
  let directory ← tree.follow path (Pathname.names path).dropLast
  tree.requireDirectory directory
  if Pathname.endsInSlash path then throw .isDirectory
  let location ← tree.resolve path
  match tree.get? location with
  | some .directory => throw .isDirectory
  | _ => return location

/-- Makes or replaces a file that has its content at once. -/
def create (tree : FileTree γ) (path : String) (content : γ) :
    Except FileError (FileTree γ) := do
  let location ← tree.place path
  return tree.put location (.file content)

/-- The limit of the file at a location, if `size` bytes exceed it. -/
def exceeded? (tree : FileTree γ) (location : Location) (size : Nat) : Option FileLimit :=
  (tree.limits location).filter (·.room < size)

/-- Makes the directories along `names` that are not there.  `made` says whether one
was made on the way.  A file in the way shows as existing where a directory was to be
made in its place, and as no directory where one was expected. -/
def makeAlong (tree : FileTree γ) (location : Location) (made : Bool) :
    (names : List String) → Option FileError × FileTree γ
  | [] => (none, tree)
  | name :: rest =>
    match tree.step location name with
    | .error error => (some error, tree)
    | .ok location =>
      match tree.get? location with
      | some .directory => makeAlong tree location made rest
      | some (.file _) =>
        (some (if made || rest.isEmpty then .alreadyExists else .notDirectory), tree)
      | none => makeAlong (tree.put location .directory) location true rest

/-- Makes a directory together with those on the way to it, as far as they are not
there.  What was made before a failure stays. -/
def makeDirectories (tree : FileTree γ) (path : String) : Option FileError × FileTree γ :=
  match tree.origin path with
  | .error error => (some error, tree)
  | .ok start => tree.makeAlong start false (Pathname.names path)

/-- Removes everything in a directory, and then the directory by the same pathname.  It
stays if the pathname leads through what was in it and so does not reach it any more. -/
def removeDirectory (tree : FileTree γ) (path : String) : Except FileError (FileTree γ) := do
  match ← tree.find path with
  | (location, .directory) =>
    let cleared := tree.clear location
    return if cleared.leads path then cleared.erase location else cleared
  | (_, .file _) => throw .notDirectory

/-- Everything below a location, as pathnames from there; directories end in a slash. -/
def listing (tree : FileTree γ) (base : Location) : List String :=
  (tree.nodes.toList.filterMap fun (location, node) =>
    if base.isPrefixOf location ∧ location ≠ base then
      let path := "/".intercalate (location.drop base.length)
      some (match node with
        | .directory => path ++ "/"
        | .file _ => path)
    else none).mergeSort

end FileTree

end MeshTrace
