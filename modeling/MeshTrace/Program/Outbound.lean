import MeshTrace.Program.State
import MeshTrace.Propagation
import MeshTrace.Thrift

/-!
# Programs for outbound messages

The locator looks for the tracing header and continues with the propagator, or with
the extended locator if its pass ran out.  Continuing goes through the jump table;
where an entry is not there, the message passes as it is.  Every program fails open:
whatever goes wrong, the message is sent.
-/

namespace MeshTrace.Kernel

/-- Puts the context frame in front of the message. -/
def propagatePath (kernel : Kernel) (peer : UInt32) (msg : Message) : MessageRun :=
  match kernel.maps.propagate peer msg with
  | (outcome, msg, maps) =>
    { verdict := .pass
      msg
      kernel := { kernel with maps }
      records :=
        match outcome with
        | .injected traceId hops => [.propagated traceId hops]
        | .aborted traceId => [.injectionFailed traceId]
        | .pass => [] }

/-- Continues with `program` if its entry of the jump table is there. -/
def tailCall (kernel : Kernel) (msg : Message) (target : JumpTarget)
    (program : Kernel → MessageRun) : MessageRun :=
  if target ∈ kernel.targets then program kernel
  else { verdict := .pass, msg, kernel, records := [.tailCallFailed target .noEntry] }

/-- Goes on with what a pass over the headers gave: `exhausted` says what follows a
pass that ran out. -/
def afterScan (kernel : Kernel) (peer : UInt32) (msg : Message)
    (exhausted : Kernel → Continuation → MessageRun) : Scan × Maps → MessageRun
  | (.pass, maps) => { verdict := .pass, msg, kernel := { kernel with maps } }
  | (.found offset, maps) =>
    tailCall { kernel with maps := maps.saveFound offset } msg .propagator
      fun kernel => kernel.propagatePath peer msg
  | (.exhausted rest, maps) => exhausted { kernel with maps } rest

/-- The second pass over the headers.  It never runs out. -/
def locateExtended (kernel : Kernel) (peer : UInt32) (msg : Message) : MessageRun :=
  afterScan kernel peer msg (fun kernel _ => { verdict := .pass, msg, kernel })
    (kernel.maps.resume peer msg.addressable)

/-- The first pass over the headers. -/
def locateHeader (kernel : Kernel) (peer : UInt32) (msg : Message) : MessageRun :=
  afterScan kernel peer msg
    (fun kernel rest =>
      tailCall { kernel with maps := kernel.maps.saveContinuation rest } msg .extendedLocator
        fun kernel => kernel.locateExtended peer msg)
    (kernel.maps.locate peer msg.addressable)

/-- Numbers a Thrift call. -/
def correlateCall (kernel : Kernel) (msg : Message) : MessageRun :=
  match kernel.maps.correlate msg.addressable with
  | (outcome, maps) =>
    { verdict := .pass
      msg
      kernel := { kernel with maps }
      records :=
        match outcome with
        | .recorded sequence requestId => [.correlated sequence requestId]
        | .noCounter requestId => [.counterMissing requestId]
        | .pass => [] }

end MeshTrace.Kernel
