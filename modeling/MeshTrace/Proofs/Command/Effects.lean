import MeshTrace.Proofs.Command.Basic
import MeshTrace.Proofs.Installation.Attaching

/-!
# What a run writes

The effects of a run are what it asks the programs and maps to do, in order
(`Procedure.effects`).  The only value that a run writes into an array is the id of its
service (`Command.run_writesOnly`).  A preparation that succeeds has written it
(`Command.prepare_writes`), and what the run does afterwards comes behind
(`Command.effects_prepare_prefix`).
-/

namespace MeshTrace

/-- The effect that an event reports. -/
def Event.effect? : Event → Option Effect
  | done effect => some effect
  | printed _ | logged _ => none

/-- If the event writes a value, then `id` as the id of the service. -/
def Event.WritesOnly (id : UInt8) : Event → Prop
  | done (.valueSet map index value) => map = MapName.service ∧ index = 0 ∧ value = id.toNat
  | _ => True

instance (id : UInt8) : System.Overlooks (System.Adds (Event.WritesOnly id)) where
  object _ _ := .of_events_eq rfl
  event system event h := by
    refine ⟨[event], by simp, fun added hadded => ?_⟩
    rw [List.mem_singleton.mp hadded]
    cases event with
    | done effect =>
        cases effect with
        | valueSet => exact h.elim
        | _ => trivial
    | _ => trivial

instance (id : UInt8) : System.Attaches (System.Adds (Event.WritesOnly id)) :=
  .of_overlooks fun _ _ => .of_events_eq rfl

/-- The id of the service is written. -/
def Effect.serviceWritten (id : UInt8) : Effect :=
  .valueSet MapName.service 0 id.toNat

namespace Procedure

variable {α β : Type}

/-- The effects of a procedure, in order: what it adds to the events that were there. -/
def effects (procedure : Procedure α) (system : System) : List Effect :=
  ((procedure.execute system).2.events.toList.drop system.events.size).filterMap Event.effect?

/-- The effects are those among the added events. -/
theorem Respects.exists_added {P : Event → Prop} {procedure : Procedure α}
    (h : Respects (System.Adds P) procedure) (system : System) :
    ∃ added : List Event,
      (procedure.execute system).2.events.toList = system.events.toList ++ added ∧
      (∀ event ∈ added, P event) ∧ procedure.effects system = added.filterMap Event.effect? := by
  obtain ⟨added, hevents, hadded⟩ := h system
  refine ⟨added, hevents, hadded, ?_⟩
  rw [effects, hevents, ← Array.length_toList, List.drop_left]

/-- The procedure writes no value but `id` as the id of the service. -/
abbrev WritesOnly (id : UInt8) (procedure : Procedure α) : Prop :=
  Respects (System.Adds (Event.WritesOnly id)) procedure

end Procedure

open Procedure MeshTrace.System

variable {id : UInt8}

/-! Installing -/

namespace Installation

theorem info_writesOnly (text : String) : WritesOnly id (info text) :=
  .observe trivial

theorem debug_writesOnly (text : String) : WritesOnly id (debug text) :=
  .observe trivial

theorem preparePins_writesOnly (layout : PinLayout) : WritesOnly id (preparePins layout) := by
  unfold preparePins
  dsimp only
  refine .bind .get fun system => .bind (.modify_of_events_eq fun _ => rfl) fun _ => ?_
  split
  · exact .throw _
  · exact .pure _

theorem pin_writesOnly (layout : PinLayout) (map : String) : WritesOnly id (pin layout map) := by
  refine .bind .get fun system => ?_
  split
  · exact .pure _
  · exact .create _ _ _

/-- Placing an object writes no value, however many of its maps get pinned. -/
theorem place_writesOnly (layout : PinLayout) (object : Object) :
    WritesOnly id (place layout object) := by
  have hpins (entry : String × ObjectMap) (next : PUnit) :
      WritesOnly id (do pin layout entry.1; pure (ForInStep.yield next)) :=
    .bind (pin_writesOnly layout entry.1) fun _ => .pure _
  have hplaced : WritesOnly id (do
      effect (.objectLoaded layout.pinDirectory)
      modify fun system => { system with object }) :=
    .bind (.observe trivial) fun _ => .modify_of_events_eq fun _ => rfl
  unfold place
  dsimp only
  split
  · exact .bind (.throw _) fun _ => .bind (.forIn (fun entry _ => hpins entry) _) fun _ => hplaced
  · exact .bind (.forIn (fun entry _ => hpins entry) _) fun _ => hplaced

theorem objectAt_writesOnly (path : String) : WritesOnly id (objectAt path) := by
  refine .bind .get fun system => .bind (.check _ _) fun content => ?_
  cases content with
  | object object => exact .pure object
  | bytes bytes => exact .throw _
  | text text => exact .throw _

theorem openSockets_writesOnly : WritesOnly id openSockets :=
  .bind (.map _) fun _ => .bind (.check _ _) fun _ => .bind (.require _ _) fun _ =>
    .modify_of_events_eq fun _ => rfl

/-- Loading writes no value. -/
theorem load_writesOnly (path : Option String) (layout : PinLayout) :
    WritesOnly id (load path layout) :=
  .bind (info_writesOnly _) fun _ => .bind (preparePins_writesOnly _) fun _ =>
    .bind (.require _ _) fun _ => .bind (info_writesOnly _) fun _ =>
    .bind (objectAt_writesOnly _) fun _ => .bind (place_writesOnly _ _) fun _ =>
    .bind openSockets_writesOnly fun _ => .bind (info_writesOnly _) fun _ => debug_writesOnly _

theorem forwardRecords_writesOnly : WritesOnly id forwardRecords := by
  refine .bind .get fun system => ?_
  split
  · exact .observe trivial
  · exact .observe trivial

theorem attachRegistrar_writesOnly (layout : PinLayout) :
    WritesOnly id (attachRegistrar layout) :=
  respects_attachRegistrar (allows_of_overlooks _) layout

/-- Attaching the locator writes no value; filling the jump table is no write of a value. -/
theorem attachLocator_writesOnly : WritesOnly id attachLocator :=
  .bind (info_writesOnly _) fun _ => .bind respects_takeJumpTable fun _ =>
    .bind (.foldlM (fun table _ => respects_setJump (allows_of_overlooks _) table) _) fun _ =>
    .bind (.modify_of_events_eq fun _ => rfl) fun _ =>
    respects_attachToMessages (allows_of_overlooks _)

theorem attachCallLocator_writesOnly : WritesOnly id attachCallLocator :=
  respects_attachCallLocator (allows_of_overlooks _)

theorem attachReceiver_writesOnly : WritesOnly id attachReceiver :=
  respects_attachReceiver fun name _ => allows_of_overlooks name

/-- Setting the id of the service writes that id and nothing else. -/
theorem setServiceId_writesOnly (id : UInt8) : WritesOnly id (setServiceId id) :=
  .bind (.map _) fun _ => .bind (.check _ _) fun _ => .bind (.check _ _) fun _ =>
    .bind (.replace_map _ _) fun _ => .bind (.observe ⟨rfl, rfl, rfl⟩) fun _ => info_writesOnly _

end Installation

namespace Command

theorem info_writesOnly (text : String) : WritesOnly id (info text) :=
  .observe trivial

theorem finish_writesOnly (options : Options) (layout : PinLayout) (timestamp : String)
    (collector : Collector) (seconds : Nat) :
    WritesOnly id (finish options layout timestamp collector seconds) :=
  .bind Installation.respects_drain fun _ => .bind (respects_readPathCache _) fun _ =>
    .bind (info_writesOnly _) fun _ => .bind (.write _ _ _ _) fun _ =>
    .bind (info_writesOnly _) fun _ => respects_infos _

/-- Collecting and reporting write no value. -/
theorem collectAndReport_writesOnly (options : Options) (layout : PinLayout)
    (timestamp : String) (interruption : Option Nat) :
    WritesOnly id (collectAndReport options layout timestamp interruption) := by
  unfold collectAndReport
  refine .throwIf ?_
  cases Stop.first options.duration interruption with
  | none => exact .bind .get fun _ => .bind (respects_collect _ _) fun _ => .pure _
  | some stop =>
      exact .bind (respects_collect _ _) fun _ => .bind (info_writesOnly _) fun _ =>
        .bind (finish_writesOnly _ _ _ _ _) fun _ => .pure _

/-! The whole run -/

theorem checkOptions_writesOnly (options : Options) : WritesOnly id (checkOptions options) := by
  unfold checkOptions
  refine .throwIf ?_
  split
  · exact .throw _
  · exact .pure _

/-- Installing writes no id but the one that the options give. -/
theorem install_writesOnly {options : Options} (hid : options.serviceId = some id)
    (layout : PinLayout) : WritesOnly id (install options layout) := by
  have hservice : WritesOnly id (do
      Installation.setServiceId id
      info "Programs attached, collecting...") :=
    .bind (Installation.setServiceId_writesOnly id) fun _ => info_writesOnly _
  unfold install
  dsimp only
  rw [hid]
  refine .bind (Installation.load_writesOnly _ _) fun _ =>
    .bind Installation.forwardRecords_writesOnly fun _ =>
    .bind (Installation.attachRegistrar_writesOnly _) fun _ => ?_
  cases options.protocol with
  | grpc =>
      exact .bind Installation.attachLocator_writesOnly fun _ =>
        .bind Installation.attachReceiver_writesOnly fun _ => hservice
  | thrift => exact .bind Installation.attachCallLocator_writesOnly fun _ => hservice

/-- All that comes before the first drain writes no id but the one that the options give. -/
theorem prepare_writesOnly {options : Options} (hid : options.serviceId = some id)
    (layout : PinLayout) : WritesOnly id (prepare options layout) :=
  .bind (.observe trivial) fun _ => .bind (checkOptions_writesOnly _) fun _ =>
    .bind (respects_infos _) fun _ => install_writesOnly hid _

/-- **The only value that a run writes is the id of its service.** -/
theorem run_writesOnly {options : Options} (hid : options.serviceId = some id)
    (timestamp : String) (interruption : Option Nat) :
    WritesOnly id (run options timestamp interruption) := by
  refine .bind (.check _ _) fun layout => ?_
  split
  · refine .bind ?_ fun _ => .pure _
    exact .bind .get fun _ => .bind (.check _ _) fun _ =>
      .bind (.modify_of_events_eq fun _ => rfl) fun _ => info_writesOnly _
  · exact .bind (.observe trivial) fun _ => .bind (checkOptions_writesOnly _) fun _ =>
      .bind (respects_infos _) fun _ => .bind (install_writesOnly hid _) fun _ =>
      collectAndReport_writesOnly _ _ _ _

/-! The id is written -/

/-- Among the events that were added, the id of the service is written. -/
def ServiceWritten (id : UInt8) (before after : System) : Prop :=
  ∃ earlier later : List Event, after.events.toList =
    before.events.toList ++ (earlier ++ .done (.serviceWritten id) :: later)

/-- What is written in the second part of a procedure is written in the whole of it. -/
theorem ServiceWritten.of_second {α β : Type} {first : Procedure α} {second : α → Procedure β}
    {system after : System} {b : β} (hfirst : WritesOnly id first)
    (h : (first >>= second).execute system = (.ok b, after))
    (hsecond : ∀ a between, (second a).execute between = (.ok b, after) →
      ServiceWritten id between after) : ServiceWritten id system after := by
  obtain ⟨a, between, hbetween, hrest⟩ := execute_bind_ok h
  obtain ⟨added, hadded, -⟩ := hfirst system
  obtain ⟨earlier, later, hafter⟩ := hsecond a between hrest
  rw [hbetween] at hadded
  exact ⟨added ++ earlier, later, by rw [hafter, hadded]; simp⟩

/-- What is written in the first part stays written. -/
theorem ServiceWritten.of_first {α β : Type} {first : Procedure α} {second : α → Procedure β}
    {system after : System} {b : β} (hsecond : ∀ a, WritesOnly id (second a))
    (h : (first >>= second).execute system = (.ok b, after))
    (hfirst : ∀ a between, first.execute system = (.ok a, between) →
      ServiceWritten id system between) : ServiceWritten id system after := by
  obtain ⟨a, between, hbetween, hrest⟩ := execute_bind_ok h
  obtain ⟨earlier, later, hwritten⟩ := hfirst a between hbetween
  obtain ⟨added, hadded, -⟩ := hsecond a between
  rw [hrest] at hadded
  exact ⟨earlier, later ++ added, by rw [hadded, hwritten]; simp⟩

/-- Setting the id of the service, where it succeeds, is among the events. -/
theorem setServiceId_writes {system after : System}
    (h : (Installation.setServiceId id).execute system = (.ok (), after)) :
    ServiceWritten id system after := by
  refine .of_second (.map _) h fun _ _ h => .of_second (.check _ _) h fun _ _ h =>
    .of_second (.check _ _) h fun _ _ h => .of_second (.replace_map _ _) h fun _ before h =>
    .of_first (fun _ => Installation.info_writesOnly _) h fun _ written hwrite => ?_
  rw [effect, execute_observe] at hwrite
  cases hwrite
  exact ⟨[], [], by simp [Effect.serviceWritten]⟩

/-- An installation that succeeds has written the id. -/
theorem install_writes {options : Options} {layout : PinLayout} {system after : System}
    (hid : options.serviceId = some id)
    (h : (install options layout).execute system = (.ok (), after)) :
    ServiceWritten id system after := by
  have hservice (between : System) (h : (do
      Installation.setServiceId id
      info "Programs attached, collecting...").execute between = (.ok (), after)) :
      ServiceWritten id between after :=
    .of_first (fun _ => info_writesOnly _) h fun _ _ hset => setServiceId_writes hset
  unfold install at h
  dsimp only at h
  rw [hid] at h
  refine .of_second (Installation.load_writesOnly _ _) h fun _ _ h =>
    .of_second Installation.forwardRecords_writesOnly h fun _ _ h =>
    .of_second (Installation.attachRegistrar_writesOnly _) h fun _ _ h => ?_
  cases hprotocol : options.protocol with
  | grpc =>
      rw [hprotocol] at h
      exact .of_second Installation.attachLocator_writesOnly h fun _ _ h =>
        .of_second Installation.attachReceiver_writesOnly h fun _ between h => hservice between h
  | thrift =>
      rw [hprotocol] at h
      exact .of_second Installation.attachCallLocator_writesOnly h fun _ between h =>
        hservice between h

/-- **When a run begins to collect, the id of its service is written.** -/
theorem prepare_writes {options : Options} {layout : PinLayout} {system started : System}
    (hid : options.serviceId = some id)
    (h : (prepare options layout).execute system = (.ok (), started)) :
    .serviceWritten id ∈ (prepare options layout).effects system := by
  have hbanner : WritesOnly id (observe (.printed banner)) := .observe trivial
  have hwritten : ServiceWritten id system started :=
    .of_second hbanner h fun _ _ h => .of_second (checkOptions_writesOnly _) h fun _ _ h =>
      .of_second (respects_infos _) h fun _ _ h => install_writes hid h
  obtain ⟨earlier, later, hevents⟩ := hwritten
  rw [effects, h, hevents, ← Array.length_toList, List.drop_left]
  simp [Event.effect?]

/-- What a run does to prepare comes first among what it does. -/
theorem effects_prepare_prefix {options : Options} {layout : PinLayout} (timestamp : String)
    (interruption : Option Nat) {system started : System}
    (hlayout : PinLayout.ofCgroup options.pinRoot options.cgroupRoot options.cgroup = .ok layout)
    (hunload : options.unload = false) (hid : options.serviceId = some id)
    (h : (prepare options layout).execute system = (.ok (), started)) :
    (prepare options layout).effects system <+:
      (run options timestamp interruption).effects system := by
  obtain ⟨first, hstarted, -, hfirst⟩ := (prepare_writesOnly hid layout).exists_added system
  have hcollect : WritesOnly id (collectAndReport options layout timestamp interruption) :=
    collectAndReport_writesOnly _ _ _ _
  obtain ⟨more, hended, -, -⟩ := hcollect.exists_added started
  have hrun : ((run options timestamp interruption).execute system).2.events.toList =
      system.events.toList ++ (first ++ more) := by
    rw [h] at hstarted
    rw [execute_run hlayout hunload, execute_bind, h]
    dsimp only
    rw [hended, hstarted, List.append_assoc]
  rw [hfirst, effects, hrun, ← Array.length_toList, List.drop_left, List.filterMap_append]
  exact List.prefix_append _ _

end Command

end MeshTrace
