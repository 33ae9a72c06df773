import MeshTrace.Proofs.System
import Mathlib.Order.Defs.Unbundled

/-!
# What procedures leave behind

A procedure `Respects` a relation between systems if it leads from every system to a
related one, whether it succeeds or fails.  For a relation that holds of unchanged
systems and along several steps, this is so of a whole procedure if it is so of its
parts; the rules are named for the ways in which procedures are put together.  Two such
relations are used: the files are the same (`SameFiles`), and every event that was added
is of some kind (`Adds`).

A procedure that succeeds went through all its parts (`execute_bind_ok`).
-/

namespace MeshTrace

/-! Relations between a system and a later one -/

namespace System

/-- The files are the same. -/
def SameFiles (before after : System) : Prop :=
  after.files = before.files

instance : IsPreorder System SameFiles where
  refl _ := rfl
  trans _ _ _ hfirst hsecond := Eq.trans hsecond hfirst

/-- Events were added, if any, behind those that were there, and each of them is as `P`
says. -/
def Adds (P : Event → Prop) (before after : System) : Prop :=
  ∃ added : List Event, after.events.toList = before.events.toList ++ added ∧
    ∀ event ∈ added, P event

variable {P : Event → Prop} {before after : System}

/-- With the same events, none were added. -/
theorem Adds.of_events_eq (h : after.events = before.events) : Adds P before after :=
  ⟨[], by rw [h, List.append_nil], by simp⟩

instance : IsPreorder System (Adds P) where
  refl _ := .of_events_eq rfl
  trans := by
    rintro first second third ⟨added, hsecond, hadded⟩ ⟨more, hthird, hmore⟩
    refine ⟨added ++ more, by rw [hthird, hsecond, List.append_assoc], fun event hevent => ?_⟩
    exact (List.mem_append.mp hevent).elim (hadded event) (hmore event)

end System

namespace Procedure

variable {α β ε : Type} {system : System}

/-! Executing the parts -/

@[simp] theorem execute_get : (get : Procedure System).execute system = (.ok system, system) :=
  rfl

/-- A failure is handled in the system that it left. -/
theorem execute_tryCatch (procedure : Procedure α) (handle : Failure → Procedure α)
    (system : System) :
    (tryCatch procedure handle).execute system =
      match procedure.execute system with
      | (.ok a, after) => (.ok a, after)
      | (.error failure, after) => (handle failure).execute after := by
  show (ExceptT.run (ExceptT.tryCatch procedure handle)).run system = _
  have hrun : StateT.run procedure system = procedure.execute system := rfl
  rw [ExceptT.tryCatch, ExceptT.run_mk, StateT.run_bind, hrun]
  generalize procedure.execute system = ended
  obtain ⟨failure | a, after⟩ := ended <;> rfl

/-- **Success goes through all parts.** -/
theorem execute_bind_ok {first : Procedure α} {second : α → Procedure β} {b : β}
    {after : System} (h : (first >>= second).execute system = (.ok b, after)) :
    ∃ a between, first.execute system = (.ok a, between) ∧
      (second a).execute between = (.ok b, after) := by
  rw [execute_bind] at h
  generalize first.execute system = ended at h
  obtain ⟨failure | a, between⟩ := ended
  · cases h
  · exact ⟨a, between, rfl, h⟩

/-- A check that passes gives what was checked and changes nothing. -/
theorem check_ok {seenAs : ε → Failure} {outcome : Except ε α} {a : α} {after : System}
    (h : (check seenAs outcome).execute system = (.ok a, after)) :
    outcome = .ok a ∧ after = system := by
  cases outcome with
  | ok value => cases h; exact ⟨rfl, rfl⟩
  | error error => cases h

/-- A map that is given is the one in the object, and nothing changes. -/
theorem map_ok {name : String} {found : ObjectMap} {after : System}
    (h : (map name).execute system = (.ok found, after)) :
    system.object.map? name = some found ∧ after = system := by
  rw [execute_map] at h
  split at h
  · next hfound => cases h; exact ⟨hfound, rfl⟩
  · cases h

/-! Respecting a relation -/

/-- Whatever system the procedure finds, it leaves a related one. -/
def Respects (R : System → System → Prop) (procedure : Procedure α) : Prop :=
  ∀ system, R system (procedure.execute system).2

namespace Respects

variable {R : System → System → Prop}

protected theorem modify {change : System → System} (h : ∀ system, R system (change system)) :
    Respects R (modify change : Procedure Unit) := h

variable [IsPreorder System R]

/-- What changes nothing is respected. -/
theorem of_execute_eq {procedure : Procedure α} {result : System → Except Failure α}
    (h : ∀ system, procedure.execute system = (result system, system)) :
    Respects R procedure := by
  intro system
  rw [h]
  exact refl_of R system

protected theorem pure (a : α) : Respects R (pure a : Procedure α) := of_execute_eq fun _ => rfl

protected theorem get : Respects R (get : Procedure System) := of_execute_eq fun _ => rfl

protected theorem throw (failure : Failure) : Respects R (throw failure : Procedure α) :=
  of_execute_eq fun _ => rfl

protected theorem bind {first : Procedure α} {second : α → Procedure β} (hfirst : Respects R first)
    (hsecond : ∀ a, Respects R (second a)) : Respects R (first >>= second) := by
  intro system
  rw [execute_bind]
  have hbetween := hfirst system
  generalize first.execute system = ended at hbetween
  obtain ⟨failure | a, between⟩ := ended
  · exact hbetween
  · exact trans_of R hbetween (hsecond a between)

/-- A procedure that may fail at once and else goes on. -/
protected theorem throwIf {c : Prop} {_ : Decidable c} {failure : Failure} {rest : Procedure α}
    (h : Respects R rest) :
    Respects R (if c then throw failure >>= fun (_ : PUnit) => rest else rest) := by
  split
  · exact .bind (.throw failure) fun _ => h
  · exact h

protected theorem tryCatch {procedure : Procedure α} {handle : Failure → Procedure α}
    (hprocedure : Respects R procedure) (hhandle : ∀ failure, Respects R (handle failure)) :
    Respects R (tryCatch procedure handle) := by
  intro system
  rw [execute_tryCatch]
  have hbetween := hprocedure system
  generalize procedure.execute system = ended at hbetween
  obtain ⟨failure | a, between⟩ := ended
  · exact trans_of R hbetween (hhandle failure between)
  · exact hbetween

protected theorem check (seenAs : ε → Failure) (outcome : Except ε α) :
    Respects R (check seenAs outcome) := by
  cases outcome with
  | ok a => exact .pure a
  | error error => exact .throw _

protected theorem require (failure : Failure) (value : Option α) :
    Respects R (require failure value) := by
  cases value with
  | none => exact .throw failure
  | some a => exact .pure a

protected theorem map (name : String) : Respects R (map name) :=
  .bind .get fun _ => .require _ _

protected theorem program (name : String) (kind : ProgramKind) : Respects R (program name kind) :=
  .bind .get fun _ => .bind (.require _ _) fun _ => .bind (.check _ _) fun _ => .pure _

protected theorem forM {items : List α} {body : α → Procedure PUnit}
    (h : ∀ a, Respects R (body a)) : Respects R (items.forM body) := by
  induction items with
  | nil => exact .pure _
  | cons a rest ih => exact .bind (h a) fun _ => ih

protected theorem foldlM {items : List α} {body : β → α → Procedure β}
    (h : ∀ b a, Respects R (body b a)) (b : β) : Respects R (items.foldlM body b) := by
  induction items generalizing b with
  | nil => exact .pure b
  | cons a rest ih => exact .bind (h b a) ih

protected theorem forIn {items : List α} {body : α → β → Procedure (ForInStep β)}
    (h : ∀ a ∈ items, ∀ b, Respects R (body a b)) (b : β) : Respects R (forIn items b body) := by
  induction items generalizing b with
  | nil => exact .pure b
  | cons a rest ih =>
      rw [List.forIn_cons]
      refine .bind (h a List.mem_cons_self b) fun step => ?_
      cases step with
      | done b => exact .pure b
      | yield b => exact ih (fun a ha => h a (List.mem_cons_of_mem _ ha)) b

end Respects

/-! Adding events -/

namespace Respects

variable {P : Event → Prop}

protected theorem observe {event : Event} (h : P event) :
    Respects (System.Adds P) (observe event) := by
  intro system
  exact ⟨[event], by simp, by simpa using h⟩

/-- What does not touch the events adds none. -/
theorem modify_of_events_eq {change : System → System}
    (h : ∀ system, (change system).events = system.events) :
    Respects (System.Adds P) (modify change : Procedure Unit) :=
  .modify fun system => .of_events_eq (h system)

protected theorem create (path : String) (content : Content) (seenAs : FileError → Failure) :
    Respects (System.Adds P) (create path content seenAs) :=
  .bind .get fun _ => .bind (.check _ _) fun _ => .modify_of_events_eq fun _ => rfl

protected theorem write (path text : String) (creating writing : FileError → Failure) :
    Respects (System.Adds P) (write path text creating writing) := by
  refine .bind .get fun _ => .bind (.check _ _) fun _ =>
    .bind (.modify_of_events_eq fun _ => rfl) fun _ => .bind .get fun _ => ?_
  dsimp only
  refine .bind (.modify_of_events_eq fun _ => rfl) fun _ => ?_
  split
  · exact .throw _
  · exact .pure _

end Respects

end Procedure

end MeshTrace
