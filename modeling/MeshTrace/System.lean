import MeshTrace.Files.Tree
import MeshTrace.Log
import MeshTrace.Object.Basic

/-!
# The system a run acts on

The system holds files, the object that was loaded and everything that was observed so
far.  A procedure changes it and may fail; what it did before it failed stays done.
-/

namespace MeshTrace

/-- The content of a file. -/
inductive Content where
  | bytes (bytes : List UInt8)
  | text (text : String)
  | object (object : Object)

/-- Writes a text into the file at a location.  A file that does not take all of it keeps
what it took. -/
def FileTree.fill (tree : FileTree Content) (location : Location) (text : String) :
    Option FileError × FileTree Content :=
  match tree.exceeded? location text.utf8ByteSize with
  | none => (none, tree.put location (.file (.text text)))
  | some limit =>
    (some limit.error,
      tree.put location (.file (.bytes (text.toUTF8.data.toList.take limit.room))))

/-- What a run acts on. -/
structure System where
  files : FileTree Content := {}
  /-- The maps and programs of the loaded object, without the jump table in use. -/
  object : Object := {}
  /-- The map of sockets, open since the object was loaded. -/
  sockets : Option SocketTable := none
  /-- The jump table, held open since it was filled. -/
  jumpTable : Option JumpTable := none
  /-- What was observed, in order. -/
  events : Array Event := #[]

/-- Something that acts on the system and may fail. -/
abbrev Procedure := ExceptT Failure (StateM System)

namespace Procedure

/-- Adds an event. -/
def observe (event : Event) : Procedure Unit :=
  modify fun system => { system with events := system.events.push event }

/-- Adds a log record. -/
def log (level : Level) (origin : Origin) (text : String) : Procedure Unit :=
  observe (.logged ⟨level, origin, text⟩)

/-- Adds an effect. -/
def effect (effect : Effect) : Procedure Unit :=
  observe (.done effect)

/-- The outcome of something that can go wrong, as seen by the one who tried it. -/
def check {ε α : Type} (seenAs : ε → Failure) : Except ε α → Procedure α
  | .ok a => return a
  | .error error => throw (seenAs error)

/-- What is there, or a failure. -/
def require {α : Type} (failure : Failure) : Option α → Procedure α
  | some a => return a
  | none => throw failure

/-- The map of the object with a name. -/
def map (name : String) : Procedure ObjectMap := do
  require (.mapNotFound name) ((← get).object.map? name)

/-- Replaces a map of the object. -/
def putMap (name : String) (map : ObjectMap) : Procedure Unit :=
  modify fun system => { system with object := system.object.withMap name map }

/-- The program of the object with a name, which must be of `kind`. -/
def program (name : String) (kind : ProgramKind) : Procedure ObjectProgram := do
  let program ← require (.programNotFound name) ((← get).object.program? name)
  check (.takeProgram name kind.name) (program.checkKind kind)
  return program

/-- Replaces a program of the object. -/
def putProgram (name : String) (program : ObjectProgram) : Procedure Unit :=
  modify fun system => { system with object := system.object.withProgram name program }

/-- Loads a program of the object. -/
def loadProgram (name : String) (program : ObjectProgram) : Procedure ObjectProgram := do
  let program ← check (.loadProgram name) program.load
  putProgram name program
  effect (.programLoaded name)
  return program

/-- Makes or replaces a file that has its content at once. -/
def create (path : String) (content : Content) (seenAs : FileError → Failure) :
    Procedure Unit := do
  let files ← check seenAs ((← get).files.create path content)
  modify fun system => { system with files }

/-- Writes a text into a file.  The file is made, or what is in it is thrown away, before
any of the text is written. -/
def write (path text : String) (creating writing : FileError → Failure) : Procedure Unit := do
  let location ← check creating ((← get).files.place path)
  modify fun system =>
    { system with files := system.files.put location (.file (.bytes [])) }
  let (error, files) := (← get).files.fill location text
  modify fun system => { system with files }
  if let some error := error then throw (writing error)

/-- The outcome and the system after a procedure. -/
def execute {α : Type} (procedure : Procedure α) (system : System) : Except Failure α × System :=
  procedure.run.run system

end Procedure

end MeshTrace
