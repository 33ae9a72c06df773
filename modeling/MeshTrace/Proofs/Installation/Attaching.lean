import MeshTrace.Installation.Attach
import MeshTrace.Proofs.Command.Collecting

/-!
# What attaching programs takes

To attach a program is to replace it in the object, to duplicate the descriptor of the map of
sockets and to write to the log; before the locator, the jump table is taken out of the object.
A relation that takes no notice of the latter (`System.Attaches`) and allows that the program
is replaced (`System.Allows`) is respected by whatever attaches the program.
-/

namespace MeshTrace

namespace System

variable {R : System → System → Prop}

/-- The relation takes no notice of what attaching does beside replacing programs. -/
class Attaches (R : System → System → Prop) : Prop extends IsPreorder System R where
  withoutMap (system : System) (name : String) :
    R system { system with object := system.object.withoutMap name }
  sockets (system : System) (table : SocketTable) : R system { system with sockets := some table }
  event (system : System) {event : Event} (h : event.WritesNothing) :
    R system { system with events := system.events.push event }

/-- The relation allows that the program with a name is replaced. -/
def Allows (R : System → System → Prop) (name : String) : Prop :=
  ∀ (system : System) (program : ObjectProgram),
    R system { system with object := system.object.withProgram name program }

/-- A relation that overlooks the object allows that every program is replaced. -/
theorem allows_of_overlooks [Overlooks R] (name : String) : Allows R name :=
  fun system program => Overlooks.object system (system.object.withProgram name program)

/-- A relation that overlooks the object needs to overlook only the map of sockets as well. -/
theorem Attaches.of_overlooks [Overlooks R]
    (sockets : ∀ (system : System) (table : SocketTable),
      R system { system with sockets := some table }) : Attaches R where
  withoutMap system name := Overlooks.object system (system.object.withoutMap name)
  sockets := sockets
  event system _ h := Overlooks.event system h

end System

namespace Installation

open Procedure MeshTrace.System

variable {R : System → System → Prop} {name : String}

/-- Replacing a program is allowed where its name is. -/
theorem respects_putProgram (hname : Allows R name) (program : ObjectProgram) :
    Respects R (putProgram name program) :=
  fun system => hname system program

variable [Attaches R]

theorem respects_observe {event : Event} (h : event.WritesNothing) : Respects R (observe event) :=
  fun system => Attaches.event system h

theorem respects_info (text : String) : Respects R (info text) :=
  respects_observe trivial

/-- Loading a program changes that program alone. -/
theorem respects_loadProgram (hname : Allows R name) (program : ObjectProgram) :
    Respects R (loadProgram name program) :=
  .bind (.check _ _) fun _ => .bind (respects_putProgram hname _) fun _ =>
    .bind (respects_observe trivial) fun _ => .pure _

/-- Attaching the registrar changes the registrar alone. -/
theorem respects_attachRegistrar (hname : Allows R ProgramName.registrar) (layout : PinLayout) :
    Respects R (attachRegistrar layout) :=
  .bind (respects_info _) fun _ => .bind .get fun _ => .bind (.check _ _) fun _ =>
    .bind (.program _ _) fun _ => .bind (respects_loadProgram hname _) fun _ =>
    .bind (.check _ _) fun _ => .bind (respects_putProgram hname _) fun _ =>
    .bind (respects_observe trivial) fun _ => respects_info _

/-- Loading and attaching a program changes that program alone. -/
theorem respects_loadAndAttach (hname : Allows R name) (program : ObjectProgram) :
    Respects R (loadAndAttach name program) :=
  .bind (respects_loadProgram hname _) fun _ => .bind (.check _ _) fun _ =>
    .bind (respects_putProgram hname _) fun _ => .bind (respects_observe trivial) fun _ =>
    respects_info _

theorem respects_duplicateSockets : Respects R duplicateSockets :=
  .bind .get fun _ => .bind (.require _ _) fun table => .modify fun system =>
    Attaches.sockets system table

/-- Attaching a program to the sockets changes that program alone. -/
theorem respects_attachToMessages (hname : Allows R name) : Respects R (attachToMessages name) :=
  .bind respects_duplicateSockets fun _ => .bind (.program _ _) fun _ =>
    respects_loadAndAttach hname _

theorem respects_takeJumpTable : Respects R takeJumpTable :=
  .bind (.map _) fun _ =>
    .bind (.modify fun system => Attaches.withoutMap system _) fun _ => .check _ _

/-- Setting an entry of the jump table changes the program that it names alone. -/
theorem respects_setJump {target : JumpTarget} (hname : Allows R target.name) (table : JumpTable) :
    Respects R (setJump table target) :=
  .bind (.program _ _) fun _ => .bind (respects_loadProgram hname _) fun _ =>
    .bind (.check _ _) fun _ => .bind (.check _ _) fun _ => .bind (.check _ _) fun _ =>
    .bind (respects_observe trivial) fun _ => .bind (respects_info _) fun _ => .pure _

/-- Attaching the call locator changes the call locator alone. -/
theorem respects_attachCallLocator (hname : Allows R ProgramName.callLocator) :
    Respects R attachCallLocator :=
  .bind (respects_info _) fun _ => respects_attachToMessages hname

/-- Attaching the programs for inbound messages changes these two alone. -/
theorem respects_attachReceiver
    (hnames : ∀ name ∈ [ProgramName.streamParser, ProgramName.streamVerdict], Allows R name) :
    Respects R attachReceiver := by
  have hattach : ∀ name ∈ [ProgramName.streamParser, ProgramName.streamVerdict],
      ∀ next : PUnit, Respects R (do
        loadAndAttach name (← program name .streams)
        pure (ForInStep.yield next)) := by
    intro name hname next
    exact .bind (.program _ _) fun _ =>
      .bind (respects_loadAndAttach (hnames name hname) _) fun _ => .pure _
  exact .bind (respects_info _) fun _ => .bind (.forIn hattach _) fun _ => .pure _

end Installation

end MeshTrace
