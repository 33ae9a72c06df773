import MeshTrace.Report.Basic

/-!
# Options of the command

Arguments are read from left to right.  A long option stands alone, with its value
behind an equals sign or in the next argument.  Short options can be written together;
the first that takes a value has the rest of the argument as its value, behind an
equals sign or not, or else the next argument.  An argument that starts with a hyphen
and goes on is never a value.  There is at most one of each option and nothing else.
-/

namespace MeshTrace

/-- What the command is asked to do. -/
structure Options where
  cgroup : String
  cgroupRoot : String := "/sys/fs/cgroup/unified"
  pinRoot : String := "/sys/fs/bpf"
  protocol : Protocol := .grpc
  /-- The service's own id. -/
  serviceId : Option UInt8 := none
  /-- The file with the program object. -/
  object : Option String := none
  /-- Remove the pod's pinned maps and do nothing else. -/
  unload : Bool := false
  /-- Seconds from one drain to the next. -/
  drainInterval : UInt64 := 5
  /-- Seconds to run; 0 is until interrupted. -/
  duration : UInt64 := 0
  /-- The file for the report. -/
  output : String := "pathprop-report.json"
  verbose : Bool := false
deriving Repr, DecidableEq

/-- The options that can be given. -/
inductive OptionKey where
  | cgroup
  | cgroupRoot
  | pinRoot
  | protocol
  | serviceId
  | object
  | unload
  | drainInterval
  | duration
  | output
  | verbose
deriving Repr, DecidableEq

namespace OptionKey

/-- All options. -/
def all : List OptionKey :=
  [cgroup, cgroupRoot, pinRoot, protocol, serviceId, object, unload, drainInterval, duration,
    output, verbose]

/-- The name of an option. -/
def long : OptionKey → String
  | cgroup => "cgroup"
  | cgroupRoot => "cgroup-root"
  | pinRoot => "pin-root"
  | protocol => "protocol"
  | serviceId => "service-id"
  | object => "ebpf-object"
  | unload => "unload"
  | drainInterval => "drain-interval"
  | duration => "duration"
  | output => "output"
  | verbose => "verbose"

/-- The letter of an option. -/
def short? : OptionKey → Option Char
  | cgroup => some 'c'
  | protocol => some 'p'
  | serviceId => some 's'
  | duration => some 'd'
  | output => some 'o'
  | verbose => some 'v'
  | _ => none

/-- Whether an option has a value. -/
def takesValue : OptionKey → Bool
  | unload | verbose => false
  | _ => true

/-- The option with a name. -/
def ofLong? (name : String) : Option OptionKey :=
  all.find? (·.long == name)

/-- The option with a letter. -/
def ofShort? (letter : Char) : Option OptionKey :=
  all.find? (·.short? == some letter)

end OptionKey

/-- An option that was given.  One without a value has the empty text. -/
abbrev GivenOption := OptionKey × String

namespace Options

/-! Arguments -/

/-- What one argument says: the options that are complete, and perhaps one that has its
value in the next argument. -/
structure Argument where
  complete : List GivenOption := []
  pending : Option OptionKey := none
deriving Repr, DecidableEq

/-- Reads a long option behind its hyphens. -/
def ofLongArgument? (text : List Char) : Option Argument := do
  let key ← OptionKey.ofLong? (String.ofList (text.takeWhile (· ≠ '=')))
  match text.dropWhile (· ≠ '='), key.takesValue with
  | [], true => return { pending := some key }
  | [], false => return { complete := [(key, "")] }
  | _ :: value, true => return { complete := [(key, String.ofList value)] }
  | _ :: _, false => none

/-- Reads short options behind their hyphen. -/
def ofShortArgument? : List Char → Option Argument
  | [] => some {}
  | letter :: rest => do
    let key ← OptionKey.ofShort? letter
    if key.takesValue then
      match rest with
      | [] => return { pending := some key }
      | '=' :: value => return { complete := [(key, String.ofList value)] }
      | value => return { complete := [(key, String.ofList value)] }
    else
      let argument ← ofShortArgument? rest
      return { argument with complete := (key, "") :: argument.complete }

/-- Whether an argument can be the value of the option before it. -/
def isValue (argument : String) : Bool :=
  match argument.toList with
  | '-' :: _ :: _ => false
  | _ => true

/-- Reads one argument that is not a value. -/
def ofArgument? (argument : String) : Option Argument :=
  match argument.toList with
  | '-' :: '-' :: rest => ofLongArgument? rest
  | '-' :: letter :: rest => ofShortArgument? (letter :: rest)
  | _ => none

/-- Reads arguments.  Two hyphens alone end them. -/
def given? : (arguments : List String) → Option (List GivenOption)
  | [] => some []
  | ["--"] => some []
  | argument :: rest =>
    match ofArgument? argument, rest with
    | some ⟨complete, none⟩, rest => (given? rest).map (complete ++ ·)
    | some ⟨complete, some key⟩, value :: rest =>
      if isValue value then (given? rest).map (complete ++ (key, value) :: ·) else none
    | _, _ => none

/-! Values -/

/-- A number in decimal digits. -/
def digits? (text : List Char) : Option Nat :=
  if text = [] ∨ text.any (!·.isDigit) then none
  else some (text.foldl (fun n c => 10 * n + (c.toNat - '0'.toNat)) 0)

/-- A number of 64 bits, perhaps with a plus sign. -/
def u64? (text : String) : Option UInt64 := do
  let n ← digits? (match text.toList with
    | '+' :: rest => rest
    | text => text)
  if n < UInt64.size then some (UInt64.ofNat n) else none

/-- A number of 8 bits, perhaps with a sign, which makes no difference to zero alone. -/
def u8? (text : String) : Option UInt8 := do
  let n ← match text.toList with
    | '-' :: rest => (digits? rest).filter (· = 0)
    | '+' :: rest => digits? rest
    | text => digits? text
  if n < UInt8.size then some (UInt8.ofNat n) else none

/-- A pathname, which is never empty. -/
def pathname? (text : String) : Option String :=
  if text.isEmpty then none else some text

/-- Adds an option to those that were read. -/
def add? (options : Options) : GivenOption → Option Options
  | (.cgroup, value) => some { options with cgroup := value }
  | (.cgroupRoot, value) => return { options with cgroupRoot := ← pathname? value }
  | (.pinRoot, value) => return { options with pinRoot := ← pathname? value }
  | (.protocol, value) => return { options with protocol := ← Protocol.ofName? value }
  | (.serviceId, value) => return { options with serviceId := some (← u8? value) }
  | (.object, value) => return { options with object := some (← pathname? value) }
  | (.unload, _) => some { options with unload := true }
  | (.drainInterval, value) => return { options with drainInterval := ← u64? value }
  | (.duration, value) => return { options with duration := ← u64? value }
  | (.output, value) => return { options with output := ← pathname? value }
  | (.verbose, _) => some { options with verbose := true }

/-- The options that arguments give, if they can be understood. -/
def ofArguments? (arguments : List String) : Option Options := do
  let given ← given? arguments
  let keys := given.map (·.1)
  guard (keys.Nodup ∧ .cgroup ∈ keys)
  given.foldlM add? { cgroup := "" }

end Options

end MeshTrace
