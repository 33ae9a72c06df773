import MeshTrace.Program.Inbound
import MeshTrace.Proofs.Command.Effects
import MeshTrace.Proofs.Path
import MeshTrace.Proofs.PathCache.Lookup
import MeshTrace.Proofs.Program.Outbound

/-!
# Messages while a run goes on

The pod does not wait for a run.  Between any two effects of the run it sends and receives
messages, and the programs that are attached by then look at them (`Pod.step`).  The
moments that pass are in any order, as long as the effects among them are those of the run
up to some point.

The cell with the id of the service is written by no program (`Pod.service_send`,
`Pod.service_receive`), so at every moment it is as it was before the run, or holds the id
that the run has written (`Pod.service_run`).  A hop that a program puts in front of a message
is what the cell holds (`Pod.send_stamps`).  A run writes the id only after its
programs are attached, so a message between the two carries another hop
(`hop_before_service_is_written`); from the write on every hop is the id of the service
(`injected_hop_is_service`).
-/

namespace MeshTrace

open Propagation Procedure

/-! The pod -/

/-- A pod while a run goes on: the state that its programs share, and the programs that the
run has attached to the map of sockets. -/
structure Pod where
  kernel : Kernel := {}
  attached : List String := []

/-- What happens at a pod at one moment. -/
inductive Moment where
  /-- The run does the next thing. -/
  | effect (effect : Effect)
  | sent (peer : UInt32) (msg : Message)
  | received (inbound : Inbound)

/-- The effect of a moment at which the run does something. -/
def Moment.effect? : Moment → Option Effect
  | effect done => some done
  | sent .. | received _ => none

/-- The effects among some moments. -/
def Moment.effects (moments : List Moment) : List Effect :=
  moments.filterMap effect?

theorem Moment.effects_cons_effect (done : Effect) (rest : List Moment) :
    effects (.effect done :: rest) = done :: effects rest := rfl

@[simp] theorem Moment.effects_map_effect (done : List Effect) :
    effects (done.map .effect) = done := by
  rw [effects, List.filterMap_map]
  exact List.filterMap_some

namespace Pod

/-- An effect of the run, as far as the programs see it. -/
def apply (pod : Pod) : Effect → Pod
  | .attachedToMap program _ => { pod with attached := pod.attached ++ [program] }
  | .jumpSet _ index _ =>
    let targets := pod.kernel.targets ++ JumpTarget.all.filter (·.index = index)
    { pod with kernel := { pod.kernel with targets } }
  | .valueSet map index value =>
    if map = MapName.service ∧ index = 0 then
      let service := pod.kernel.maps.service.set (UInt8.ofNat value)
      { pod with kernel := { pod.kernel with maps := { pod.kernel.maps with service } } }
    else pod
  | .keyRemoved _ key =>
    let correlations := pod.kernel.maps.correlations.erase key
    { pod with kernel := { pod.kernel with maps := { pod.kernel.maps with correlations } } }
  | .objectLoaded _ | .recordsForwarded | .programLoaded _ | .attachedToGroup _ => pod

/-- A message that the pod sends goes through the program for outbound messages, if one is
attached. -/
def send (pod : Pod) (peer : UInt32) (msg : Message) : MessageRun :=
  if ProgramName.locator ∈ pod.attached then pod.kernel.locateHeader peer msg
  else if ProgramName.callLocator ∈ pod.attached then pod.kernel.correlateCall msg
  else { verdict := .pass, msg, kernel := pod.kernel }

/-- A message that the pod receives goes through the programs for streams, if they are
attached. -/
def receive (pod : Pod) (inbound : Inbound) : Kernel :=
  if ProgramName.streamVerdict ∈ pod.attached then (pod.kernel.receive inbound).2.2.2.1
  else pod.kernel

/-- The pod after one moment. -/
def step (pod : Pod) : Moment → Pod
  | .effect effect => pod.apply effect
  | .sent peer msg => { pod with kernel := (pod.send peer msg).kernel }
  | .received inbound => { pod with kernel := pod.receive inbound }

/-- The pod after some moments, the first one first. -/
def run (pod : Pod) (moments : List Moment) : Pod :=
  moments.foldl step pod

end Pod

/-! Hops that go in front -/

namespace Propagation

/-- The newest hop of the next path is the service. -/
theorem head?_hops_nextPath (maps : Maps) (service : UInt8) (traceId : UInt64) :
    (nextPath maps service traceId).hops.head? = some service := by
  rcases nextPath_cases maps service traceId with ⟨-, hpath⟩ | ⟨cached, -, hpath⟩
  · rw [hpath, Path.hops_single]
    rfl
  · rw [hpath, Path.hops_extend]
    rfl

/-- No propagation writes the id of the service. -/
theorem Propagated.service {maps after : Maps} {peer : UInt32} {msg sent : Message}
    {outcome : Propagation} (h : Propagated maps peer msg (outcome, sent, after)) :
    after.service = maps.service := by
  cases h <;> simp

end Propagation

namespace Kernel

variable {kernel : Kernel} {peer : UInt32} {msg : Message}

/-- The propagator does not write the id of the service. -/
theorem service_propagatePath (kernel : Kernel) (peer : UInt32) (msg : Message) :
    (kernel.propagatePath peer msg).kernel.maps.service = kernel.maps.service := by
  obtain ⟨outcome, sent, maps, records, hends, hrun⟩ := kernel.propagatePath_propagated peer msg
  rw [hrun]
  exact hends.service

/-- A locator does not write the id of the service, whether it runs the propagator or not. -/
theorem Located.service {run : MessageRun} (h : Located kernel peer msg run) :
    run.kernel.maps.service = kernel.maps.service := by
  cases h with
  | passed args cursors records => rfl
  | propagated args cursors => exact service_propagatePath _ peer msg

/-- The call locator does not write the id of the service. -/
theorem service_correlateCall (kernel : Kernel) (msg : Message) :
    (kernel.correlateCall msg).kernel.maps.service = kernel.maps.service := by
  show (kernel.maps.correlate msg.addressable).2.service = kernel.maps.service
  unfold Maps.correlate
  split
  · rfl
  · split <;> rfl

/-- The programs for inbound messages do not write the id of the service. -/
theorem service_receive (kernel : Kernel) (inbound : Inbound) :
    (kernel.receive inbound).2.2.2.1.maps.service = kernel.maps.service := by
  show (kernel.cacheReceived inbound.pullAll.2.1).2.1.maps.service = kernel.maps.service
  unfold cacheReceived
  split
  · rfl
  · exact Maps.service_cachePath _ _ _

/-- The message goes out with a context frame in front, and the newest hop there is
`hop`. -/
def Stamps (msg : Message) (hop : UInt8) (sent : List UInt8) : Prop :=
  ∃ rawId path, rawId.length = Context.traceIdSize ∧
    sent = Context.frame rawId path ++ msg.bytes ∧ path.hops.head? = some hop

/-- **The newest hop in front of a message is the id in the cell.** -/
theorem stamps_of_propagatePath {traceId : UInt64} {hops : UInt8}
    (h : .propagated traceId hops ∈ (kernel.propagatePath peer msg).records) :
    ∃ service, kernel.maps.service.get? = some service ∧
      Stamps msg service (kernel.propagatePath peer msg).msg.bytes := by
  have hends := kernel.maps.propagate_propagated peer msg
  unfold propagatePath at h ⊢
  cases hresult : kernel.maps.propagate peer msg with
  | mk outcome rest =>
      rw [hresult] at hends h
      cases hends with
      | unread => simp at h
      | stopped header => simp at h
      | aborted reads hroom hbytes => simp at h
      | injected reads hroom hbytes =>
          exact ⟨_, reads.service, _, _, Bytes.length_of_slice? reads.rawId, hbytes,
            head?_hops_nextPath _ _ _⟩

/-- A locator that reports an injection stamped the message with the id of the service. -/
theorem Located.stamps {run : MessageRun} (h : Located kernel peer msg run) {traceId : UInt64}
    {hops : UInt8} (hinjected : .propagated traceId hops ∈ run.records) :
    ∃ service, kernel.maps.service.get? = some service ∧ Stamps msg service run.msg.bytes := by
  cases h with
  | passed args cursors records hrecords => exact absurd hinjected (hrecords traceId hops)
  | propagated args cursors => exact stamps_of_propagatePath hinjected

end Kernel

/-! The id of the service -/

/-- Writing a value twice is writing it once. -/
theorem Cell.set_set {α : Type} (cell : Cell α) (value : α) :
    (cell.set value).set value = cell.set value := by
  unfold set
  split <;> simp_all

namespace Pod

variable {pod : Pod}

/-- An outbound message does not change the id of the service, attached programs or not. -/
theorem service_send (pod : Pod) (peer : UInt32) (msg : Message) :
    (pod.send peer msg).kernel.maps.service = pod.kernel.maps.service := by
  unfold send
  split
  · exact (Kernel.locateHeader_located pod.kernel peer msg).service
  · split
    · exact Kernel.service_correlateCall pod.kernel msg
    · rfl

/-- An inbound message does not change the id of the service, attached programs or not. -/
theorem service_receive (pod : Pod) (inbound : Inbound) :
    (pod.receive inbound).maps.service = pod.kernel.maps.service := by
  unfold receive
  split
  · exact Kernel.service_receive pod.kernel inbound
  · rfl

/-- The id that is written is the one that the programs read, if there is a cell for it. -/
theorem service_apply_serviceWritten (pod : Pod) (id : UInt8) :
    (pod.apply (.serviceWritten id)).kernel.maps.service = pod.kernel.maps.service.set id := by
  simp [apply, Effect.serviceWritten]

/-- An effect that is not the write leaves the cell alone, if the write is the only value
that is written. -/
theorem service_apply_of_ne (pod : Pod) {id : UInt8} {effect : Effect}
    (hwrites : (Event.done effect).WritesOnly id) (hne : effect ≠ .serviceWritten id) :
    (pod.apply effect).kernel.maps.service = pod.kernel.maps.service := by
  cases effect with
  | valueSet map index value =>
      obtain ⟨rfl, rfl, rfl⟩ := hwrites
      exact absurd rfl hne
  | _ => rfl

/-- **The cell holds what was written last.**  If the id of the service is the only value
that is written, then after any moments the cell holds it, or is as it was at the start. -/
theorem service_run (pod : Pod) {id : UInt8} {moments : List Moment}
    (hwrites : ∀ effect ∈ Moment.effects moments, (Event.done effect).WritesOnly id) :
    (pod.run moments).kernel.maps.service =
      if .serviceWritten id ∈ Moment.effects moments then pod.kernel.maps.service.set id
      else pod.kernel.maps.service := by
  induction moments generalizing pod with
  | nil => rfl
  | cons moment rest ih =>
      show ((pod.step moment).run rest).kernel.maps.service = _
      cases moment with
      | sent peer msg =>
          rw [ih (pod.step (.sent peer msg)) hwrites, step, service_send]
          rfl
      | received inbound =>
          rw [ih (pod.step (.received inbound)) hwrites, step, service_receive]
          rfl
      | effect done =>
          rw [Moment.effects_cons_effect] at hwrites ⊢
          rw [ih (pod.step (.effect done)) fun later hlater => hwrites later (.tail _ hlater), step]
          by_cases hdone : done = .serviceWritten id
          · subst hdone
            simp [service_apply_serviceWritten, Cell.set_set]
          · rw [service_apply_of_ne pod (hwrites done (.head _)) hdone]
            simp [Ne.symm hdone]

/-- A hop that goes in front is what the cell holds. -/
theorem send_stamps {peer : UInt32} {msg : Message} {traceId : UInt64} {hops : UInt8}
    (h : .propagated traceId hops ∈ (pod.send peer msg).records) :
    ProgramName.locator ∈ pod.attached ∧ ∃ service,
      pod.kernel.maps.service.get? = some service ∧
        Kernel.Stamps msg service (pod.send peer msg).msg.bytes := by
  unfold send at h ⊢
  split at h
  next hattached =>
    rw [if_pos hattached]
    exact ⟨hattached, (Kernel.locateHeader_located pod.kernel peer msg).stamps h⟩
  next =>
    split at h
    · exact absurd h (Kernel.not_mem_records_correlateCall traceId hops)
    · simp at h

end Pod

/-- **From the write on every hop is the id of the service.**  Let a run have the id of its
service, and let some moments pass at a pod in any state, the effects among them being those
of the run up to some point.  Then the cell with the id reads as the service's id if that is
written by now, and else as before the run.  Whenever a message goes out with a context frame
in front, its newest hop is what the cell reads as, and the locator is attached.  Once the
run has prepared the pod and collects, the id is written. -/
theorem injected_hop_is_service {options : Options} {id : UInt8}
    (hid : options.serviceId = some id) (timestamp : String) (interruption : Option Nat)
    (system : System) (pod : Pod) {moments : List Moment}
    (hmoments : Moment.effects moments <+:
      (Command.run options timestamp interruption).effects system) :
    let now := pod.run moments
    let written := .serviceWritten id ∈ Moment.effects moments
    let hop := if written then id else pod.kernel.maps.service.value
    (pod.kernel.maps.service.present → now.kernel.maps.service.get? = some hop) ∧
      (∀ peer msg traceId hops, .propagated traceId hops ∈ (now.send peer msg).records →
        ProgramName.locator ∈ now.attached ∧
          Kernel.Stamps msg hop (now.send peer msg).msg.bytes) ∧
      ∀ layout started, (Command.prepare options layout).execute system = (.ok (), started) →
        (Command.prepare options layout).effects system <+: Moment.effects moments → written := by
  intro now written hop
  obtain ⟨added, -, hadded, heffects⟩ :=
    (Command.run_writesOnly hid timestamp interruption).exists_added system
  have hwrites : ∀ effect ∈ Moment.effects moments, (Event.done effect).WritesOnly id := by
    intro effect heffect
    have hrun := hmoments.mem heffect
    rw [heffects, List.mem_filterMap] at hrun
    obtain ⟨event, hevent, hdone⟩ := hrun
    cases event with
    | done done => cases hdone; exact hadded _ hevent
    | printed text => cases hdone
    | logged record => cases hdone
  have hservice := pod.service_run hwrites
  have hread : pod.kernel.maps.service.present → now.kernel.maps.service.get? = some hop := by
    intro hpresent
    by_cases hwritten : written
    · rw [show now.kernel.maps.service = _ from hservice, if_pos hwritten,
        Cell.get?_set id hpresent, show hop = id from if_pos hwritten]
    · rw [show now.kernel.maps.service = _ from hservice, if_neg hwritten, Cell.get?,
        if_pos hpresent, show hop = _ from if_neg hwritten]
  refine ⟨hread, fun peer msg traceId hops hinjected => ?_, fun layout started hprepared hdone =>
    hdone.mem (Command.prepare_writes hid hprepared)⟩
  obtain ⟨hattached, service, hget, hstamps⟩ := Pod.send_stamps hinjected
  refine ⟨hattached, ?_⟩
  have hpresent : pod.kernel.maps.service.present := by
    have hnow := Cell.present_of_get? hget
    rw [show now.kernel.maps.service = _ from hservice] at hnow
    split at hnow
    · rwa [Cell.present_set] at hnow
    · exact hnow
  rw [hread hpresent] at hget
  cases hget
  exact hstamps

/-! A run for gRPC -/

/-- The effects of a run for a service with the id 7. -/
def grpcEffects : List Effect :=
  (Command.run (Command.podOptions .grpc) "now" none).effects
    (Command.podSystem (Command.completeObject { keySize := 8, valueSize := 8 }))

/-- The id comes last. -/
theorem grpcEffects_eq : grpcEffects =
    [.objectLoaded "/pins/pod", .recordsForwarded,
      .programLoaded ProgramName.registrar, .attachedToGroup ProgramName.registrar,
      .programLoaded ProgramName.propagator,
      .jumpSet MapName.jumpTable 0 ProgramName.propagator,
      .programLoaded ProgramName.extendedLocator,
      .jumpSet MapName.jumpTable 1 ProgramName.extendedLocator,
      .programLoaded ProgramName.locator, .attachedToMap ProgramName.locator MapName.sockets,
      .programLoaded ProgramName.streamParser,
      .attachedToMap ProgramName.streamParser MapName.sockets,
      .programLoaded ProgramName.streamVerdict,
      .attachedToMap ProgramName.streamVerdict MapName.sockets, .serviceWritten 7] := by
  decide +kernel

/-- A pod that nothing was ever loaded for. -/
def freshPod : Pod := { kernel := { targets := [] } }

/-- A message whose trace id is 1, 2, …, 8. -/
def grpcMessage : Message :=
  .ofBytes (Frame.encode Frame.headersType
    (Field.encodeAll [.tracing [1, 2, 3, 4, 5, 6, 7, 8, 9]]))

/-- When the whole run has happened, a message carries the id of the service. -/
theorem injected_hop_is_service_afterRun :
    (Command.podOptions .grpc).serviceId = some 7 ∧
      Moment.effects (grpcEffects.map .effect) <+: grpcEffects ∧
      .propagated 0x0102030405060708 1 ∈
        ((freshPod.run (grpcEffects.map .effect)).send 5 grpcMessage).records ∧
      Kernel.Stamps grpcMessage 7
        ((freshPod.run (grpcEffects.map .effect)).send 5 grpcMessage).msg.bytes := by
  have hid : (Command.podOptions .grpc).serviceId = some 7 := rfl
  have hmoments : Moment.effects (grpcEffects.map .effect) <+: grpcEffects := by simp
  have hinjected : .propagated 0x0102030405060708 1 ∈
      ((freshPod.run (grpcEffects.map .effect)).send 5 grpcMessage).records := by
    rw [grpcEffects_eq]
    decide +kernel
  have hwritten : .serviceWritten 7 ∈ Moment.effects (grpcEffects.map .effect) := by
    rw [Moment.effects_map_effect, grpcEffects_eq]
    simp
  obtain ⟨-, hstamps, -⟩ := injected_hop_is_service hid "now" none _ freshPod hmoments
  have hhop := (hstamps 5 grpcMessage _ _ hinjected).2
  rw [if_pos hwritten] at hhop
  exact ⟨hid, hmoments, hinjected, hhop⟩

/-- **A hop can be stamped before the id is written.**  In a run for gRPC a message goes out as
soon as the locator is attached, which is before the id of the service, 7, is written.  In a
fresh map the hop is 0. -/
theorem hop_before_service_is_written :
    let moments : List Moment := (grpcEffects.take 10).map .effect
    let sent := (freshPod.run moments).send 5 grpcMessage
    (Command.podOptions .grpc).protocol = .grpc ∧
      (Command.podOptions .grpc).serviceId = some 7 ∧
      Moment.effects moments <+: grpcEffects ∧
      .attachedToMap ProgramName.locator MapName.sockets ∈ Moment.effects moments ∧
      .serviceWritten 7 ∉ Moment.effects moments ∧ .serviceWritten 7 ∈ grpcEffects ∧
      .propagated 0x0102030405060708 1 ∈ sent.records ∧
      Kernel.Stamps grpcMessage 0 sent.msg.bytes := by
  intro moments sent
  have hmoments : Moment.effects moments <+: grpcEffects := by
    rw [Moment.effects_map_effect]
    exact List.take_prefix _ _
  have hsent : .propagated 0x0102030405060708 1 ∈ sent.records ∧ sent.msg.bytes =
      Context.frame [1, 2, 3, 4, 5, 6, 7, 8] (.single 0) ++ grpcMessage.bytes := by
    simp only [sent, moments, grpcEffects_eq]
    decide +kernel
  have hstamps : Kernel.Stamps grpcMessage 0 sent.msg.bytes := ⟨_, _, rfl, hsent.2, rfl⟩
  refine ⟨rfl, rfl, hmoments, ?_, ?_, ?_, hsent.1, hstamps⟩
  · rw [Moment.effects_map_effect, grpcEffects_eq]
    simp
  · rw [Moment.effects_map_effect, grpcEffects_eq]
    decide +kernel
  · simp [grpcEffects_eq]

end MeshTrace
