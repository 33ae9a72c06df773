import MeshTrace.Program.Inbound
import MeshTrace.Proofs.Program.Outbound

/-!
# Runs of a service's programs

The programs of a service run one after the other, in any order, on the state that
they share.  `Kernel.invoke` is one program's run as a step on that state and
`Kernel.run` a whole history of them.

`invoke_cachePath` and `invoke_cache` say what a step can do to the path cache: a
verdict on a context frame caches its path, and any other step leaves the ring alone
and at most takes one record away.
-/

namespace MeshTrace

/-- One run of one of the programs, with what it looks at. -/
inductive Invocation where
  | registrar (event : SocketEvent)
  | locator (peer : UInt32) (msg : Message)
  | extendedLocator (peer : UInt32) (msg : Message)
  | propagator (peer : UInt32) (msg : Message)
  | callLocator (msg : Message)
  | streamParser (inbound : Inbound)
  | streamVerdict (inbound : Inbound)
deriving Repr, DecidableEq

/-- The trace id and the path of the context frame that a run caches, if it does. -/
def Invocation.received? : Invocation → Option (UInt64 × Path)
  | streamVerdict inbound => Context.read? inbound.addressable
  | _ => none

/-- The context frames that are cached in the course of a history. -/
def Invocation.received (history : List Invocation) : List (UInt64 × Path) :=
  history.filterMap received?

namespace Kernel

/-- The state after one run of a program. -/
def invoke (kernel : Kernel) : Invocation → Kernel
  | .registrar event => (kernel.registerSocket event).2.1
  | .locator peer msg => (kernel.locateHeader peer msg).kernel
  | .extendedLocator peer msg => (kernel.locateExtended peer msg).kernel
  | .propagator peer msg => (kernel.propagatePath peer msg).kernel
  | .callLocator msg => (kernel.correlateCall msg).kernel
  | .streamParser _ => kernel
  | .streamVerdict inbound => (kernel.cacheReceived inbound).2.1

/-- The state after a history of runs. -/
def run (kernel : Kernel) (history : List Invocation) : Kernel :=
  history.foldl invoke kernel

/-- The state of a service right after its programs were loaded: fresh maps with its
id, and some entries of the jump table. -/
def loaded (service : UInt8) (targets : List JumpTarget) : Kernel where
  maps := { Maps.bounded with service := .holding service }
  targets := targets

/-- The path cache is as it was, or one record was taken away. -/
def CacheKept (before after : Maps) : Prop :=
  after.ring = before.ring ∧
    (after.paths = before.paths ∨ ∃ traceId, after.paths = before.paths.erase traceId)

variable {kernel : Kernel} {peer : UInt32} {msg : Message}

/-- A propagation uses up at most the record of its trace. -/
theorem propagatePath_cacheKept (kernel : Kernel) (peer : UInt32) (msg : Message) :
    CacheKept kernel.maps (kernel.propagatePath peer msg).kernel.maps := by
  obtain ⟨outcome, sent, maps, records, hends, hrun⟩ := kernel.propagatePath_propagated peer msg
  rw [hrun]
  cases hends with
  | unread => exact ⟨rfl, Or.inl rfl⟩
  | stopped header => exact ⟨by simp, Or.inl (by simp)⟩
  | aborted reads hroom hbytes => exact ⟨by simp, Or.inl (by simp)⟩
  | injected reads hroom hbytes => exact ⟨by simp, Or.inr ⟨_, rfl⟩⟩

/-- A locator leaves the cache to the propagator. -/
theorem Located.cacheKept {run : MessageRun} (h : Located kernel peer msg run) :
    CacheKept kernel.maps run.kernel.maps := by
  cases h with
  | passed args cursors records => exact ⟨rfl, Or.inl rfl⟩
  | propagated args cursors => exact propagatePath_cacheKept (kernel.scanned args cursors) _ _

/-- Numbering a call leaves the cache alone. -/
theorem correlateCall_cacheKept (kernel : Kernel) (msg : Message) :
    CacheKept kernel.maps (kernel.correlateCall msg).kernel.maps := by
  unfold correlateCall Maps.correlate
  split
  next heq =>
    split at heq
    · cases heq
      exact ⟨rfl, Or.inl rfl⟩
    · split at heq <;> cases heq <;> exact ⟨rfl, Or.inl rfl⟩

/-- Registering a socket changes no map of paths. -/
theorem maps_registerSocket (kernel : Kernel) (event : SocketEvent) :
    (kernel.registerSocket event).2.1.maps = kernel.maps := by
  unfold registerSocket
  split
  · rfl
  · split <;> rfl

/-- A run that caches a frame does nothing else to the maps. -/
theorem invoke_cachePath {invocation : Invocation} {traceId : UInt64} {path : Path}
    (h : invocation.received? = some (traceId, path)) :
    (kernel.invoke invocation).maps = (kernel.maps.cachePath traceId path).2 := by
  cases invocation with
  | streamVerdict inbound =>
      have hread : Context.read? inbound.addressable = some (traceId, path) := h
      simp only [invoke, cacheReceived, hread]
  | _ => cases h

/-- A run that caches no frame leaves the ring alone and takes at most one record
away. -/
theorem invoke_cache {invocation : Invocation} (h : invocation.received? = none) :
    CacheKept kernel.maps (kernel.invoke invocation).maps := by
  cases invocation with
  | registrar event =>
      rw [invoke, maps_registerSocket]
      exact ⟨rfl, Or.inl rfl⟩
  | locator peer msg => exact (locateHeader_located kernel peer msg).cacheKept
  | extendedLocator peer msg => exact (locateExtended_located kernel peer msg).cacheKept
  | propagator peer msg => exact propagatePath_cacheKept kernel peer msg
  | callLocator msg => exact correlateCall_cacheKept kernel msg
  | streamParser inbound => exact ⟨rfl, Or.inl rfl⟩
  | streamVerdict inbound =>
      have hread : Context.read? inbound.addressable = none := h
      simp only [invoke, cacheReceived, hread]
      exact ⟨rfl, Or.inl rfl⟩

end Kernel

end MeshTrace
