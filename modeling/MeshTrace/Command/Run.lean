import MeshTrace.Command.Schedule
import MeshTrace.Installation.Attach
import MeshTrace.Installation.Maps
import MeshTrace.Report.Statistics
import MeshTrace.Report.Json

/-!
# A run of the command

A run loads and attaches the programs of one pod, collects what they record, and writes
a report when it stops.  A failure before that ends it without a report, and one while the
report is written ends it with a part of it.
-/

namespace MeshTrace.Command

open Procedure

/-- Logs what is being done. -/
def info (text : String) : Procedure Unit := log .info .command text

/-- Logs a detail. -/
def debug (text : String) : Procedure Unit := log .debug .command text

/-- Logs several lines. -/
def infos (lines : List String) : Procedure Unit := lines.forM info

/-- Removes the pod's pinned maps. -/
def unload (layout : PinLayout) : Procedure Unit := do
  let files ← check (.unload layout.pod) (layout.remove (← get).files)
  modify fun system => { system with files }
  info ("Removed pinned maps of pod " ++ layout.pod)

/-- What a run prints first. -/
def banner : String :=
  "\n╔═══════════════════════════════════════════════════╗\n" ++
  "║       eBPF Path Propagation - Service Mesh        ║\n" ++
  "║              Trace Path Fast Path                 ║\n" ++
  "╚═══════════════════════════════════════════════════╝\n" ++
  "    \n"

/-- Refuses options that do not fit together. -/
def checkOptions (options : Options) : Procedure Unit := do
  if options.drainInterval = 0 then throw .drainIntervalZero
  if options.protocol = .grpc ∧ options.serviceId = none then throw .serviceIdRequired

/-- Logs what the run is about. -/
def announce (options : Options) (layout : PinLayout) : Procedure Unit :=
  infos [
    "Starting path propagation...",
    "   Pod: " ++ layout.pod,
    "   Cgroup: " ++ Text.quoted layout.cgroupPath,
    "   Pin directory: " ++ Text.quoted layout.pinDirectory,
    "   Protocol: " ++ options.protocol.label,
    "   Duration: " ++
      (if options.duration = 0 then "infinite" else toString options.duration) ++ " seconds"]

/-- Loads the programs and attaches those for the protocol. -/
def install (options : Options) (layout : PinLayout) : Procedure Unit := do
  Installation.load options.object layout
  Installation.forwardRecords
  Installation.attachRegistrar layout
  match options.protocol with
  | .grpc =>
    Installation.attachLocator
    Installation.attachReceiver
  | .thrift => Installation.attachCallLocator
  if let some id := options.serviceId then
    Installation.setServiceId id
  info "Programs attached, collecting..."

/-- Drains once. -/
def drainOnce (collector : Collector) : Procedure Collector := do
  let batch ← Installation.drain
  let collector := collector.add batch
  if batch.isEmpty then debug "No new correlations"
  else info s!"Drained {batch.length} correlations ({collector.total} total)"
  return collector

/-- Drains `n` times. -/
def collect (collector : Collector) : (n : Nat) → Procedure Collector
  | 0 => return collector
  | n + 1 => do
    let collector ← drainOnce collector
    collect collector n

/-- The statistics of the path cache.  Doing without is no failure. -/
def readPathCache : Protocol → Procedure (Option PathCacheStats)
  | .thrift => return none
  | .grpc =>
    tryCatch (some <$> Installation.pathCache) fun failure => do
      log .warn .command ("Could not read path cache: " ++ failure.message)
      return none

/-- A line of the summary with a number. -/
def summaryLine (label : String) (n : Nat) : String :=
  "    " ++ Text.padRight 18 label ++ Text.padLeft 8 ' ' (toString n)

/-- The summary of a report, for the log. -/
def summary (report : Report) : List String :=
  let rule := "============================================"
  let correlations := [
    "  Correlations:",
    summaryLine "drained:" report.correlations.total.toNat,
    summaryLine "drain passes:" report.correlations.drains.toNat]
  let cache := match report.pathCache with
    | none => []
    | some cache => [
      "",
      "  Path cache:",
      summaryLine "cached paths:" cache.cachedPaths.toNat,
      summaryLine "ring occupancy:" cache.ringOccupancy.toNat,
      summaryLine "longest path:" cache.maxHops.toNat]
  ["", rule, "             Summary Report", rule, "",
    "  Pod:                " ++ report.pod,
    s!"  Duration:           {report.durationSeconds} seconds", ""] ++
    correlations ++ cache ++ ["", rule]

/-- Drains for the last time and writes the report. -/
def finish (options : Options) (layout : PinLayout) (timestamp : String) (collector : Collector)
    (seconds : Nat) : Procedure Unit := do
  let collector := collector.add (← Installation.drain)
  let pathCache ← readPathCache options.protocol
  info "Generating report..."
  let report : Report := {
    timestamp
    durationSeconds := UInt64.ofNat seconds
    pod := layout.pod
    protocol := options.protocol
    serviceId := options.serviceId
    correlations := collector.stats
    pathCache }
  write options.output (report.render .pretty) (.createOutput options.output)
    (.writeOutput options.output)
  info ("Report written to " ++ Text.quoted options.output)
  infos (summary report)

/-- The number of drains after which a run that never stops can no longer fail. -/
def drainHorizon (object : Object) : Nat :=
  match object.map? MapName.correlations with
  | some (.numbers table) => table.failingWalks.foldl max 0 + 1
  | _ => 1

/-- How a run that does not fail ends. -/
inductive Ending where
  | unloaded
  | reported
  /-- It goes on until it is interrupted. -/
  | unending
deriving Repr, DecidableEq

/-- Collects until the run stops, then writes the report. -/
def collectAndReport (options : Options) (layout : PinLayout) (timestamp : String)
    (interruption : Option Nat) : Procedure Ending := do
  if ¬ Clock.shows options.duration.toNat then throw .endBeyondClock
  match Stop.first options.duration interruption with
  | some stop =>
    let collector ← collect {} (stop.drains options.drainInterval.toNat)
    info stop.reason.text
    finish options layout timestamp collector stop.second
    return .reported
  | none =>
    let _ ← collect {} (drainHorizon (← get).object)
    return .unending

/-- The run that the options ask for.  `timestamp` is the time for the report, and
`interruption` the second at which the user wants the collection to stop. -/
def run (options : Options) (timestamp : String) (interruption : Option Nat) :
    Procedure Ending := do
  let layout ← check id (PinLayout.ofCgroup options.pinRoot options.cgroupRoot options.cgroup)
  if options.unload then
    unload layout
    return .unloaded
  else
    observe (.printed banner)
    checkOptions options
    announce options layout
    install options layout
    collectAndReport options layout timestamp interruption

/-! What a run leaves -/

/-- The exit code after an outcome; absent if the run goes on. -/
def exitCode? : Except Failure Ending → Option Nat
  | .ok .unending => none
  | .ok .unloaded | .ok .reported => some 0
  | .error failure => some failure.exitCode

/-- The text that was printed for the user. -/
def output (system : System) : String :=
  String.join (system.events.toList.map Event.output)

/-- The log as far as it is shown. -/
def logText (verbose : Bool) (system : System) : String :=
  String.join ((system.events.toList.filter (·.isShown verbose)).map Event.shown)

/-- What is shown of a failure. -/
def failureText : Except Failure Ending → String
  | .ok _ => ""
  | .error failure => "Error: " ++ failure.report ++ "\n"

end MeshTrace.Command
