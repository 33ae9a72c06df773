import MeshTrace.Failure
import MeshTrace.Text.Terminal

/-!
# Logs

Whatever can be observed of a run is an event: a text printed for the user, a log
record, or an effect on the system.  Effects are what the programs and maps of a
loaded object are asked to do; their order among the log records is kept.
-/

namespace MeshTrace

/-- How much a log record matters. -/
inductive Level where
  | debug
  | info
  | warn
deriving Repr, DecidableEq

/-- The name of a level. -/
def Level.name : Level → String
  | debug => "DEBUG"
  | info => "INFO"
  | warn => "WARN"

/-- Which part of the program a log record comes from. -/
inductive Origin where
  | command
  | installation
deriving Repr, DecidableEq

/-- The name of an origin in the log. -/
def Origin.name : Origin → String
  | command => "pathprop"
  | installation => "pathprop_userspace::loader"

/-- One entry of the log. -/
structure LogRecord where
  level : Level
  origin : Origin
  text : String
deriving Repr, DecidableEq

/-- A log record on one line, without the time. -/
def LogRecord.line (record : LogRecord) : String :=
  "[" ++ Text.padRight 5 record.level.name ++ " " ++ record.origin.name ++ "] " ++ record.text

/-- A log record as the log shows it: its further lines are indented, and nothing in it
steers a terminal.  Its last line ends unless a string for a terminal swallows the end. -/
def LogRecord.shown (record : LogRecord) : String :=
  Text.withoutControls (Text.hanging "    " record.line ++ "\n")

/-- Something that was done to the system. -/
inductive Effect where
  /-- An object was loaded and its maps were pinned. -/
  | objectLoaded (pinDirectory : String)
  /-- Log records of the programs are being forwarded. -/
  | recordsForwarded
  | programLoaded (program : String)
  | attachedToGroup (program : String)
  | attachedToMap (program map : String)
  /-- A jump leads to a program from now on. -/
  | jumpSet (map : String) (index : Nat) (program : String)
  | valueSet (map : String) (index value : Nat)
  | keyRemoved (map : String) (key : UInt64)
deriving Repr, DecidableEq

/-- What an effect reports. -/
def Effect.text : Effect → String
  | objectLoaded pinDirectory => "object loaded, pins in " ++ pinDirectory
  | recordsForwarded => "kernel log attached"
  | programLoaded program => s!"{program} loaded"
  | attachedToGroup program => s!"{program} attached to the cgroup"
  | attachedToMap program map => s!"{program} attached to {map}"
  | jumpSet map index program => s!"{map}[{index}] = {program}"
  | valueSet map index value => s!"{map}[{index}] = {value}"
  | keyRemoved map key => s!"{map} without {key}"

/-- Something that can be observed of a run. -/
inductive Event where
  | printed (text : String)
  | logged (record : LogRecord)
  | done (effect : Effect)
deriving Repr, DecidableEq

namespace Event

/-- The event as an entry of the log, if it has one. -/
def line? : Event → Option String
  | printed _ => none
  | logged record => some record.line
  | done effect => some ("bpf: " ++ effect.text)

/-- The event as the log shows it. -/
def shown : Event → String
  | printed _ => ""
  | logged record => record.shown
  | done effect => "bpf: " ++ effect.text ++ "\n"

/-- The text that the event prints for the user. -/
def output : Event → String
  | printed text => text
  | logged _ | done _ => ""

/-- Whether the event is shown: all are when `verbose`, and otherwise all but the log
records of the lowest level. -/
def isShown (verbose : Bool) : Event → Bool
  | logged record => verbose || record.level ≠ .debug
  | printed _ | done _ => true

end Event

end MeshTrace
