import MeshTrace.Installation.Load

/-!
# Attaching a pod's programs

The registrar is attached to the pod's control group, all other programs to the map of
sockets.  The program that looks for the tracing header continues with others, so the
jump table is filled before it is attached, and held open from then on.
-/

namespace MeshTrace.Installation

open Procedure

/-- Attaches the program that registers sockets. -/
def attachRegistrar (layout : PinLayout) : Procedure Unit := do
  info "Attaching connection registrar..."
  let group := layout.cgroupPath
  let _ ← check (.openCgroup group) ((← get).files.find group)
  let name := ProgramName.registrar
  let program ← program name .sockets
  let program ← loadProgram name program
  let program ← check (.attachToCgroup name group) program.attach
  putProgram name program
  effect (.attachedToGroup name)
  info (s!"  ✓ Attached {name} to " ++ Text.quoted group)

/-- Loads a program and attaches it to the map of sockets. -/
def loadAndAttach (name : String) (program : ObjectProgram) : Procedure Unit := do
  let program ← loadProgram name program
  let program ← check (.attachToMap name MapName.sockets) program.attach
  putProgram name program
  effect (.attachedToMap name MapName.sockets)
  info s!"  ✓ Attached {name} to {MapName.sockets}"

/-- Duplicates the descriptor of the map of sockets. -/
def duplicateSockets : Procedure Unit := do
  let table ← require .duplicateSockets ((← get).sockets.bind (·.duplicate?))
  modify fun system => { system with sockets := some table }

/-- Attaches a program that looks at outbound messages. -/
def attachToMessages (name : String) : Procedure Unit := do
  duplicateSockets
  loadAndAttach name (← program name .messages)

/-- Takes the jump table out of the object. -/
def takeJumpTable : Procedure JumpTable := do
  let map ← map MapName.jumpTable
  modify fun system => { system with object := system.object.withoutMap MapName.jumpTable }
  check (.openMap MapName.jumpTable "ProgramArray") map.asJumps

/-- Lets a jump lead to its target. -/
def setJump (table : JumpTable) (target : JumpTarget) : Procedure JumpTable := do
  let name := target.name
  let program ← program name .messages
  let program ← loadProgram name program
  check (.noDescriptor name) program.descriptor
  check (.duplicateDescriptor name) program.duplicate
  let table ← check (.addToJumpTable name MapName.jumpTable) (table.set target.index name)
  effect (.jumpSet MapName.jumpTable target.index name)
  info s!"  ✓ {MapName.jumpTable}[{target.index}] = {name}"
  return table

/-- Fills the jump table and attaches the program that looks for the tracing header. -/
def attachLocator : Procedure Unit := do
  info "Attaching gRPC path propagation..."
  let table ← takeJumpTable
  let table ← JumpTarget.all.foldlM setJump table
  modify fun system => { system with jumpTable := some table }
  attachToMessages ProgramName.locator

/-- Attaches the program that numbers Thrift calls. -/
def attachCallLocator : Procedure Unit := do
  info "Attaching Thrift request correlation..."
  attachToMessages ProgramName.callLocator

/-- Attaches the programs that cache received paths. -/
def attachReceiver : Procedure Unit := do
  info "Attaching stream receiver..."
  for name in [ProgramName.streamParser, ProgramName.streamVerdict] do
    loadAndAttach name (← program name .streams)

end MeshTrace.Installation
