import MeshTrace.Proofs.Command.Basic
import MeshTrace.Proofs.Installation.Attaching
import MeshTrace.Proofs.Installation.Drain

/-!
# The jumps behind the locator

The locator continues with other programs through the jump table.  The table is taken out of
the object and filled before it is held open, and it is held open before the locator is
attached.  So whatever calls are made and wherever one of them fails, an attached locator
finds both of its targets in a table that is held open (`attached_locator_jumps`).
-/

namespace MeshTrace

open Procedure

/-! Filling a jump table -/

namespace JumpTable

variable {table after : JumpTable} {target other : JumpTarget}

/-- The target is set in its place. -/
def LeadsTo (table : JumpTable) (target : JumpTarget) : Prop :=
  table.targets[target.index]? = some target.name

/-- Setting an entry, where it succeeds, changes no other one. -/
theorem set_eq_ok {index : Nat} {program : String} (h : table.set index program = .ok after) :
    after.targets = table.targets.insert index program := by
  rw [set] at h
  split at h
  · cases h
  · cases h
    rfl

/-- A target that was set is in its place. -/
theorem leadsTo_of_set (h : table.set target.index target.name = .ok after) :
    after.LeadsTo target := by
  rw [LeadsTo, set_eq_ok h, Std.ExtTreeMap.getElem?_insert_self]

/-- Another place is left as it is. -/
theorem LeadsTo.of_set (hother : table.LeadsTo other)
    (h : table.set target.index target.name = .ok after) : after.LeadsTo other := by
  by_cases heq : target = other
  · subst heq
    exact leadsTo_of_set h
  · have hindex : target.index ≠ other.index := by
      cases target <;> cases other <;> simp_all [JumpTarget.index]
    rw [LeadsTo, set_eq_ok h, Std.ExtTreeMap.getElem?_insert]
    simpa [LeadsTo, hindex] using hother

end JumpTable

namespace Installation

/-- A jump that was set leads to its target, and the others lead where they led. -/
theorem leadsTo_of_setJump {table filled : JumpTable} {target : JumpTarget}
    {system after : System}
    (h : (setJump table target).execute system = (.ok filled, after)) :
    filled.LeadsTo target ∧ ∀ other, table.LeadsTo other → filled.LeadsTo other := by
  -- The program is found, loaded and described before the table changes.
  obtain ⟨_, _, -, h⟩ := execute_bind_ok h
  obtain ⟨_, _, -, h⟩ := execute_bind_ok h
  obtain ⟨_, _, -, h⟩ := execute_bind_ok h
  obtain ⟨_, _, -, h⟩ := execute_bind_ok h
  obtain ⟨set, _, hset, h⟩ := execute_bind_ok h
  obtain ⟨_, _, -, h⟩ := execute_bind_ok h
  obtain ⟨_, _, -, h⟩ := execute_bind_ok h
  cases h
  have hset := (check_ok hset).1
  exact ⟨JumpTable.leadsTo_of_set hset, fun other hother => hother.of_set hset⟩

/-- **A filled table leads to all targets that it was filled with.** -/
theorem leadsTo_of_foldlM_setJump {targets : List JumpTarget} {table filled : JumpTable}
    {system after : System}
    (h : (targets.foldlM setJump table).execute system = (.ok filled, after))
    {target : JumpTarget} (htarget : target ∈ targets ∨ table.LeadsTo target) :
    filled.LeadsTo target := by
  induction targets generalizing table system with
  | nil =>
      cases h
      exact htarget.resolve_left List.not_mem_nil
  | cons first rest ih =>
      obtain ⟨set, _, hset, hrest⟩ := execute_bind_ok h
      obtain ⟨hfirst, hothers⟩ := leadsTo_of_setJump hset
      apply ih hrest
      rcases htarget with hmem | hled
      · rcases List.mem_cons.mp hmem with rfl | hmem
        · exact .inr hfirst
        · exact .inl hmem
      · exact .inr (hothers target hled)

end Installation

/-! Chained systems -/

namespace System

/-- The locator was attached. -/
def locatorAttached (system : System) : Bool :=
  (system.object.program? ProgramName.locator).any (·.attached)

/-- The jump table is held as before. -/
def SameJumps (before after : System) : Prop :=
  after.jumpTable = before.jumpTable

instance : Overlooks SameJumps where
  refl _ := rfl
  trans _ _ _ hfirst hsecond := Eq.trans hsecond hfirst
  object _ _ := rfl
  event _ _ _ := rfl

instance : Attaches SameJumps := .of_overlooks fun _ _ => rfl

/-- The jump table is held as before, and the locator was not attached in between. -/
structure KeepsJumps (before after : System) : Prop where
  jumpTable : SameJumps before after
  attached : after.locatorAttached = true → before.locatorAttached = true

namespace KeepsJumps

variable {before after : System}

/-- With the same programs the locator is as attached as before. -/
theorem of_programs_eq (hjumps : SameJumps before after)
    (hprograms : after.object.programs = before.object.programs) : KeepsJumps before after := by
  refine ⟨hjumps, fun hattached => ?_⟩
  rw [locatorAttached, Object.program?] at hattached ⊢
  rwa [hprograms] at hattached

instance : Attaches KeepsJumps where
  refl _ := .of_programs_eq rfl rfl
  trans _ _ _ hfirst hsecond :=
    ⟨hsecond.jumpTable.trans hfirst.jumpTable, hfirst.attached ∘ hsecond.attached⟩
  withoutMap _ _ := .of_programs_eq rfl rfl
  sockets _ _ := .of_programs_eq rfl rfl
  event _ _ _ := .of_programs_eq rfl rfl

/-- Every program but the locator may be replaced. -/
theorem allows {name : String} (hname : name ≠ ProgramName.locator) : Allows KeepsJumps name := by
  intro system program
  refine ⟨rfl, fun hattached => ?_⟩
  rw [locatorAttached, Object.program?, Object.withProgram,
    named?_replaceNamed_of_ne hname] at hattached
  exact hattached

end KeepsJumps

/-- An attached locator finds its targets in a table that is held open. -/
def Chained (system : System) : Prop :=
  system.locatorAttached = true →
    ∃ table, system.jumpTable = some table ∧ ∀ target, table.LeadsTo target

/-- A held table stays good for an attached locator. -/
theorem Chained.of_keepsJumps {before after : System} (hbefore : before.Chained)
    (h : KeepsJumps before after) : after.Chained := by
  intro hattached
  rw [h.jumpTable]
  exact hbefore (h.attached hattached)

end System

/-! Calls -/

namespace Installation

/-- What is done with an installation once it is loaded. -/
inductive Call where
  | attachRegistrar (layout : PinLayout)
  | attachLocator
  | attachCallLocator
  | attachReceiver
  | setServiceId (id : UInt8)

/-- The procedure that is called. -/
def Call.procedure : Call → Procedure Unit
  | attachRegistrar layout => Installation.attachRegistrar layout
  | attachLocator => Installation.attachLocator
  | attachCallLocator => Installation.attachCallLocator
  | attachReceiver => Installation.attachReceiver
  | setServiceId id => Installation.setServiceId id

/-- What the call leaves, whether it succeeds or fails. -/
def Call.leave (call : Call) (system : System) : System :=
  (call.procedure.execute system).2

open MeshTrace.System

/-- Setting the id of the service has nothing to do with the jump table. -/
theorem setServiceId_keepsJumps (id : UInt8) : Respects KeepsJumps (setServiceId id) := by
  have hvalue : Respects KeepsJumps (effect (.valueSet MapName.service 0 id.toNat)) :=
    fun _ => .of_programs_eq rfl rfl
  have hmap (map : ObjectMap) : Respects KeepsJumps (putMap MapName.service map) :=
    fun _ => .of_programs_eq rfl rfl
  exact .bind (.map _) fun _ => .bind (.check _ _) fun _ => .bind (.check _ _) fun _ =>
    .bind (hmap _) fun _ => .bind hvalue fun _ => respects_info _

/-- The table that is filled, before it is held open. -/
def fillJumpTable : Procedure JumpTable := do
  info "Attaching gRPC path propagation..."
  let table ← takeJumpTable
  JumpTarget.all.foldlM setJump table

/-- To attach the locator is to fill the jump table, to hold it open and to attach the program. -/
theorem attachLocator_eq :
    attachLocator = (do
      let table ← fillJumpTable
      modify fun system => { system with jumpTable := some table }
      attachToMessages ProgramName.locator) := by
  simp only [attachLocator, fillJumpTable, bind_assoc]

/-- Filling a table does not yet hold it, nor does it attach the locator. -/
theorem fillJumpTable_keepsJumps : Respects KeepsJumps fillJumpTable := by
  have hname (target : JumpTarget) : target.name ≠ ProgramName.locator := by
    cases target <;> decide
  exact .bind (respects_info _) fun _ => .bind respects_takeJumpTable fun table =>
    .foldlM (fun table target => respects_setJump (KeepsJumps.allows (hname target)) table) table

/-- A table that was filled leads to all targets. -/
theorem leadsTo_of_fillJumpTable {system after : System} {filled : JumpTable}
    (h : fillJumpTable.execute system = (.ok filled, after)) (target : JumpTarget) :
    filled.LeadsTo target := by
  obtain ⟨_, _, -, h⟩ := execute_bind_ok h
  obtain ⟨_, _, -, h⟩ := execute_bind_ok h
  refine leadsTo_of_foldlM_setJump h (.inl ?_)
  cases target <;> decide

/-- **The locator is attached behind a filled table, or not at all.** -/
theorem chained_attachLocator {system : System} (h : system.Chained) :
    (attachLocator.execute system).2.Chained := by
  rw [attachLocator_eq, execute_bind]
  have hkept := fillJumpTable_keepsJumps system
  generalize hfill : fillJumpTable.execute system = ended at hkept
  obtain ⟨failure | table, between⟩ := ended
  · exact h.of_keepsJumps hkept
  · have hheld : SameJumps { between with jumpTable := some table }
        ((attachToMessages ProgramName.locator).execute
          { between with jumpTable := some table }).2 :=
      respects_attachToMessages (allows_of_overlooks _) _
    intro _
    exact ⟨table, hheld, leadsTo_of_fillJumpTable hfill⟩

/-- **Every call leaves a chained system**, whether it succeeds or fails. -/
theorem chained_leave (call : Call) {system : System} (h : system.Chained) :
    (call.leave system).Chained := by
  cases call with
  | attachLocator => exact chained_attachLocator h
  | attachRegistrar layout =>
      exact h.of_keepsJumps (respects_attachRegistrar (KeepsJumps.allows (by decide)) layout system)
  | attachCallLocator =>
      exact h.of_keepsJumps (respects_attachCallLocator (KeepsJumps.allows (by decide)) system)
  | attachReceiver =>
      refine h.of_keepsJumps (respects_attachReceiver (fun name hname => ?_) system)
      exact KeepsJumps.allows (by rintro rfl; revert hname; decide)
  | setServiceId id => exact h.of_keepsJumps (setServiceId_keepsJumps id system)

/-- What is reached from an installation by calls.  In between, anything may change, such as
which uses of the object are refused; only calls attach the locator and hold the jump
table. -/
inductive Reaches (start : System) : System → Prop
  | start : Reaches start start
  | call {system : System} (h : Reaches start system) (call : Call) :
      Reaches start (call.leave system)
  | change {system after : System} (h : Reaches start system) (hkept : KeepsJumps system after) :
      Reaches start after

/-- **Whatever calls were made**, an attached locator finds its targets. -/
theorem Reaches.chained {start system : System} (hstart : start.locatorAttached = false)
    (h : Reaches start system) : system.Chained := by
  induction h with
  | start =>
      intro hattached
      rw [hstart] at hattached
      cases hattached
  | call _ call ih => exact chained_leave call ih
  | change _ hkept ih => exact ih.of_keepsJumps hkept

end Installation

/-- **The locator is never attached over a broken chain.**  From an installation whose locator
is not attached, calls are made in any order, again and again, and each of them may fail at
any step.  Whenever the locator is attached, the jump table is held open, and the propagator
and the extended locator are in their places. -/
theorem attached_locator_jumps {start system : System} (hstart : start.locatorAttached = false)
    (h : Installation.Reaches start system) (hattached : system.locatorAttached = true) :
    ∃ table, system.jumpTable = some table ∧
      table.targets[0]? = some ProgramName.propagator ∧
      table.targets[1]? = some ProgramName.extendedLocator := by
  obtain ⟨table, hheld, hleads⟩ := h.chained hstart hattached
  exact ⟨table, hheld, hleads .propagator, hleads .extendedLocator⟩

/-- An installation whose object has everything that calls look for. -/
def freshInstallation : System where
  object := Command.completeObject {}
  sockets := some {}

/-- There is no control group for the registrar, and the locator is to be attached twice. -/
def retriedInstallation : System :=
  let registered := (Installation.Call.attachRegistrar ⟨"pod", "/pins/pod", "/pod"⟩).leave
    freshInstallation
  Installation.Call.attachLocator.leave (Installation.Call.attachLocator.leave registered)

/-- An installation with two calls that fail. -/
theorem attached_locator_jumps_retried :
    freshInstallation.locatorAttached = false ∧
      Installation.Reaches freshInstallation retriedInstallation ∧
      retriedInstallation.locatorAttached = true ∧
      ∃ table, retriedInstallation.jumpTable = some table ∧
        table.targets[0]? = some ProgramName.propagator ∧
        table.targets[1]? = some ProgramName.extendedLocator := by
  have hfresh : Installation.Reaches freshInstallation freshInstallation := .start
  have hreached : Installation.Reaches freshInstallation retriedInstallation :=
    ((hfresh.call (.attachRegistrar _)).call .attachLocator).call .attachLocator
  have hstart : freshInstallation.locatorAttached = false := by decide +kernel
  have hattached : retriedInstallation.locatorAttached = true := by decide +kernel
  exact ⟨hstart, hreached, hattached, attached_locator_jumps hstart hreached hattached⟩

end MeshTrace
