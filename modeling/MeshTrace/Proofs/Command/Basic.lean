import MeshTrace.Command.Run
import MeshTrace.Proofs.Procedure

/-!
# The parts of a run

A run that is not to unload anything prepares the pod, which includes all checks, and then
collects (`execute_run`).
-/

namespace MeshTrace.Command

open Procedure

/-- Everything that a run does before it collects: it checks the options, loads the programs
and attaches them. -/
def prepare (options : Options) (layout : PinLayout) : Procedure Unit := do
  observe (.printed banner)
  checkOptions options
  announce options layout
  install options layout

variable {options : Options} {layout : PinLayout} {timestamp : String}
  {interruption : Option Nat} {system : System}

/-- **A run prepares and then collects.** -/
theorem execute_run
    (hlayout : PinLayout.ofCgroup options.pinRoot options.cgroupRoot options.cgroup = .ok layout)
    (hunload : options.unload = false) :
    (run options timestamp interruption).execute system =
      (do prepare options layout
          collectAndReport options layout timestamp interruption : Procedure Ending).execute
        system := by
  rw [run, hlayout, execute_bind, execute_check_ok]
  simp only [hunload, Bool.false_eq_true, if_false, prepare, bind_assoc]

/-! A pod to run on -/

/-- An object with every map and program that a run uses. -/
def completeObject (correlations : HashTable UInt64) : Object where
  maps := [(MapName.sockets, .sockets {}), (MapName.jumpTable, .jumps {}),
    (MapName.paths, .paths { keySize := 8, valueSize := 101 }),
    (MapName.ringIndex, .array { valueSize := 4, values := #[0, 0] }),
    (MapName.service, .array { valueSize := 1, values := #[0] }),
    (MapName.correlations, .numbers correlations)]
  programs := [(ProgramName.registrar, { kind := .sockets }),
    (ProgramName.locator, { kind := .messages }),
    (ProgramName.extendedLocator, { kind := .messages }),
    (ProgramName.propagator, { kind := .messages }),
    (ProgramName.callLocator, { kind := .messages }),
    (ProgramName.streamParser, { kind := .streams }),
    (ProgramName.streamVerdict, { kind := .streams })]

/-- A system where a pod runs and an object lies ready. -/
def podSystem (object : Object) : System where
  files := ((({} : FileTree Content).put ["pod"] .directory).put ["object"]
    (.file (.object object)))

/-- Options for that pod. -/
def podOptions (protocol : Protocol) : Options where
  cgroup := "pod"
  cgroupRoot := "/"
  pinRoot := "/pins"
  protocol := protocol
  serviceId := some 7
  object := some "/object"
  duration := 12
  output := "/report"

end MeshTrace.Command
