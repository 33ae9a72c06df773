import MeshTrace.Names
import MeshTrace.PinLayout
import MeshTrace.System

/-!
# Loading a pod's programs

Loading an object makes its maps and programs available and pins its maps in the pod's
directory, so that a later run for the same pod finds them.
-/

namespace MeshTrace.Installation

open Procedure

/-- Logs what is being done. -/
def info (text : String) : Procedure Unit := log .info .installation text

/-- Logs a detail. -/
def debug (text : String) : Procedure Unit := log .debug .installation text

/-- Makes the directory for pinned maps. -/
def preparePins (layout : PinLayout) : Procedure Unit := do
  let (failure, files) := layout.ensure (← get).files
  modify fun system => { system with files }
  if let some failure := failure then throw failure

/-- Pins a map, unless something is pinned under its name. -/
def pin (layout : PinLayout) (map : String) : Procedure Unit := do
  let path := layout.mapPath map
  unless (← get).files.leads path do
    create path (.bytes []) fun _ => .loadObject "pin failed"

/-- Brings an object into the system. -/
def place (layout : PinLayout) (object : Object) : Procedure Unit := do
  if let some reason := object.loading then throw (.loadObject reason)
  for (map, _) in object.maps do
    pin layout map
  effect (.objectLoaded layout.pinDirectory)
  modify fun system => { system with object }

/-- The object that a file holds. -/
def objectAt (path : String) : Procedure Object := do
  match ← check (.readObject path) ((← get).files.read path) with
  | .object object => return object
  | .bytes _ | .text _ => throw (.loadObject "not an object")

/-- Opens the map of sockets for the programs to be attached to it. -/
def openSockets : Procedure Unit := do
  let map ← map MapName.sockets
  let table ← check (.openMap MapName.sockets "SockHash") map.asSockets
  let table ← require .duplicateSockets table.duplicate?
  modify fun system => { system with sockets := some table }

/-- Loads the object that the file at `path` holds. -/
def load (path : Option String) (layout : PinLayout) : Procedure Unit := do
  info "Loading eBPF programs..."
  preparePins layout
  let path ← require .noObject path
  info ("Loading eBPF object from: " ++ Text.quoted path)
  place layout (← objectAt path)
  openSockets
  info ("eBPF programs loaded, maps pinned in " ++ Text.quoted layout.pinDirectory)
  debug ("  sockhash at " ++ Text.quoted (layout.mapPath MapName.sockets))

/-- Has the log records of the programs forwarded.  Doing without is no failure. -/
def forwardRecords : Procedure Unit := do
  match (← get).object.forwarding with
  | none => effect .recordsForwarded
  | some reason =>
    log .warn .installation
      ("eBPF logger not available, kernel log records will not be captured: " ++ reason)

end MeshTrace.Installation
