import MeshTrace.Connection
import MeshTrace.Maps.Basic
import MeshTrace.Message
import MeshTrace.Names
import MeshTrace.Text.Format

/-!
# What socket programs run on

Socket programs share the maps, the table of registered sockets and the jump table.
A program looks at one message or socket, may write a few log records and ends in a
verdict.
-/

namespace MeshTrace

/-- What happens to the data that a program looked at. -/
inductive Verdict where
  | drop
  | pass
deriving Repr, DecidableEq

/-- The number that stands for a verdict. -/
def Verdict.code : Verdict → Nat
  | drop => 0
  | pass => 1

/-- The largest number of registered sockets. -/
def maxConnections : Nat := 65535

/-- The state that the programs of one service share. -/
structure Kernel where
  maps : Maps := .bounded
  sockets : Table ConnectionKey UInt64 := .empty (some maxConnections)
  /-- The entries of the jump table that are there. -/
  targets : List JumpTarget := JumpTarget.all

/-- A system call that did not succeed, under the number that the kernel gives it. -/
inductive KernelError where
  | noEntry
  | tooBig
  | present
  | other (code : Int)
deriving Repr, DecidableEq

/-- The number of a kernel error. -/
def KernelError.code : KernelError → Int
  | noEntry => -2
  | tooBig => -7
  | present => -17
  | other code => code

/-- A log record of a socket program. -/
inductive KernelRecord where
  | tailCallFailed (target : JumpTarget) (error : KernelError)
  | registrationFailed (error : KernelError)
  | propagated (traceId : UInt64) (hops : UInt8)
  | injectionFailed (traceId : UInt64)
  | correlated (sequence requestId : UInt64)
  | counterMissing (requestId : UInt64)
  | pullFailed (length : Nat) (error : KernelError)
  | evicted (traceId oldest : UInt64)
  | untracked (traceId : UInt64)
deriving Repr, DecidableEq

namespace KernelRecord

/-- Whether a record reports an error. -/
def isError : KernelRecord → Bool
  | registrationFailed _ | injectionFailed _ | counterMissing _ | pullFailed .. | untracked _ =>
    true
  | tailCallFailed .. | propagated .. | correlated .. | evicted .. => false

/-- The wording of a record. -/
def text : KernelRecord → String
  | tailCallFailed target error => s!"tail call {target.index} failed: {error.code}"
  | registrationFailed error => s!"failed to register socket: {error.code}"
  | propagated traceId hops =>
    s!"propagated trace {Text.hex traceId.toNat} with {hops} hops"
  | injectionFailed traceId => s!"could not inject path for trace {Text.hex traceId.toNat}"
  | correlated sequence requestId => s!"message {sequence} carries request {requestId}"
  | counterMissing requestId => s!"no message counter, request {requestId} dropped"
  | pullFailed length error => s!"could not pull {length} bytes: {error.code}"
  | evicted traceId oldest =>
    s!"cached trace {Text.hex traceId.toNat}, evicted {Text.hex oldest.toNat}"
  | untracked traceId =>
    s!"ring indices missing, trace {Text.hex traceId.toNat} not tracked"

end KernelRecord

/-- The end of a program that ran for an outbound message. -/
structure MessageRun where
  verdict : Verdict
  msg : Message
  kernel : Kernel
  /-- The log records, in order. -/
  records : List KernelRecord := []

end MeshTrace
