import MeshTrace.System

/-!
# How procedures are executed

A procedure is executed by executing its parts one after the other, until one fails
(`execute_bind`).  The rules here say what each part does; a proof about a procedure
rewrites with them and never opens the procedure's own construction.
-/

namespace MeshTrace

/-- Success goes through both parts. -/
theorem of_bind_eq_ok {ε α β : Type} {first : Except ε α} {second : α → Except ε β} {b : β}
    (h : (first >>= second) = .ok b) : ∃ a, first = .ok a ∧ second a = .ok b := by
  cases first with
  | error error => cases h
  | ok a => exact ⟨a, rfl, h⟩

/-- Some outcomes are looked at only to see whether they are good. -/
theorem exists_eq_ok_iff {ε α : Type} {outcome : Except ε α} :
    (∃ a, outcome = .ok a) ↔ outcome.isOk := by
  cases outcome <;> simp [Except.isOk, Except.toBool]

/-- A failure that is seen as another one is no success. -/
theorem mapError_eq_ok_iff {ε δ α : Type} {seenAs : ε → δ} {outcome : Except ε α} {a : α} :
    outcome.mapError seenAs = .ok a ↔ outcome = .ok a := by
  cases outcome with
  | error error =>
      constructor
      · intro h
        cases h
      · intro h
        cases h
  | ok value =>
      constructor
      · intro h
        cases h
        rfl
      · intro h
        cases h
        rfl

/-- What an outcome gives if it is no error can be told from it as an option. -/
theorem eq_ok_iff_toOption {ε α : Type} {outcome : Except ε α} {a : α} :
    outcome = .ok a ↔ outcome.toOption = some a := by
  cases outcome <;> simp [Except.toOption]

namespace Procedure

variable {α β ε : Type} {system : System}

/-- **One after the other.**  The second part is executed on the system that the first one
leaves, unless the first one fails. -/
theorem execute_bind (first : Procedure α) (second : α → Procedure β) (system : System) :
    (first >>= second).execute system =
      match first.execute system with
      | (.ok a, after) => (second a).execute after
      | (.error failure, after) => (.error failure, after) := by
  unfold execute
  rw [ExceptT.run_bind, StateT.run_bind]
  generalize first.run.run system = ended
  obtain ⟨failure | a, after⟩ := ended <;> rfl

@[simp] theorem execute_pure (a : α) : (pure a : Procedure α).execute system = (.ok a, system) :=
  rfl

@[simp] theorem execute_modify (change : System → System) :
    (modify change : Procedure Unit).execute system = (.ok (), change system) := rfl

@[simp] theorem execute_check_ok (seenAs : ε → Failure) (a : α) :
    (check seenAs (.ok a)).execute system = (.ok a, system) := rfl

@[simp] theorem execute_map (name : String) :
    (map name).execute system =
      match system.object.map? name with
      | some found => (.ok found, system)
      | none => (.error (.mapNotFound name), system) := by
  unfold map
  rw [execute_bind]
  show (require _ (system.object.map? name)).execute system = _
  cases system.object.map? name <;> rfl

@[simp] theorem execute_putMap (name : String) (map : ObjectMap) :
    (putMap name map).execute system =
      (.ok (), { system with object := system.object.withMap name map }) := rfl

@[simp] theorem execute_observe (event : Event) :
    (observe event).execute system =
      (.ok (), { system with events := system.events.push event }) := rfl

end Procedure

end MeshTrace
