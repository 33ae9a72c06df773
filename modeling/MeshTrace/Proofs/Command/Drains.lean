import MeshTrace.Proofs.Command.Basic
import MeshTrace.Proofs.Installation.Drain
import MeshTrace.Proofs.Report.Collector

/-!
# The drains of a run

The drains of a run are numbered from 0, and `beforeDrain` is the system that one of them
finds.  All drains before some number succeed exactly if each of them does
(`collect_ok_of_drains`, `collects_of_collect_ok`).

`Collects` says what a collector owes to the drains so far: it has what each of them found,
unless a later one gave another request id under the same number.  Every drain that is added
keeps it (`Collects.add`).
-/

namespace MeshTrace

open Procedure

/-! What the map has -/

/-- The value under a key.  A map has one entry for a key; of several the last counts. -/
def HashTable.get? {α : Type} (table : HashTable α) (key : UInt64) : Option α :=
  (table.entries.reverse.find? (·.1 == key)).map (·.2)

namespace Object

/-- The map of request ids. -/
def correlations? (object : Object) : Option (HashTable UInt64) :=
  match object.map? MapName.correlations with
  | some (.numbers table) => some table
  | _ => none

/-- The request id that the map has under a number. -/
def requestId? (object : Object) (sequence : UInt64) : Option UInt64 :=
  object.correlations?.bind (·.get? sequence)

/-- The request id that a drain finds under a number.  By then the programs may have recorded
more. -/
def foundRequestId? (object : Object) (sequence : UInt64) : Option UInt64 :=
  object.correlations?.bind (·.arrive.get? sequence)

/-- A drain lists what it finds. -/
theorem Drainable.foundRequestId? {object : Object} {view : HashTable UInt64}
    (h : object.Drainable view) (sequence : UInt64) :
    object.foundRequestId? sequence =
      (view.listing.reverse.find? (·.sequence == sequence)).map (·.requestId) := by
  rw [Object.foundRequestId?, correlations?, h.isMap, HashTable.listing, ← List.map_reverse,
    List.find?_map, Option.map_map]
  rfl

end Object

namespace Installation

/-- A drain of the system succeeds. -/
def Drains (system : System) : Prop :=
  ∃ batch, (drain.execute system).1 = .ok batch

/-- A drain of the system gives a correlation. -/
def Delivers (system : System) (c : Correlation) : Prop :=
  ∃ batch, (drain.execute system).1 = .ok batch ∧ c ∈ batch

/-- A drain of the system removes a correlation: it finds it in the map, and leaves nothing
under its number. -/
def Removes (system : System) (c : Correlation) : Prop :=
  system.object.foundRequestId? c.sequence = some c.requestId ∧
    (drain.execute system).2.object.requestId? c.sequence = none

instance (system : System) : Decidable (Drains system) :=
  decidable_of_iff ((drain.execute system).1.isOk) exists_eq_ok_iff.symm

instance (system : System) (c : Correlation) : Decidable (Removes system c) := by
  unfold Removes
  infer_instance

/-- What a drain gives under a number is what it finds there. -/
theorem find?_batch {system : System} {batch : List Correlation}
    (h : (drain.execute system).1 = .ok batch) (sequence : UInt64) :
    (batch.reverse.find? (·.sequence == sequence)).map (·.requestId) =
      system.object.foundRequestId? sequence := by
  obtain ⟨view, hview, rfl⟩ := drain_eq_ok_iff.mp h
  exact (hview.foundRequestId? sequence).symm

/-- What a drain finds it delivers. -/
theorem Drains.delivers {system : System} (h : Drains system) {sequence requestId : UInt64}
    (hfound : system.object.foundRequestId? sequence = some requestId) :
    Delivers system ⟨sequence, requestId⟩ := by
  obtain ⟨batch, hbatch⟩ := h
  refine ⟨batch, hbatch, ?_⟩
  rw [← find?_batch hbatch sequence, Option.map_eq_some_iff] at hfound
  obtain ⟨c, hfind, rfl⟩ := hfound
  have hsequence : c.sequence = sequence := by simpa using List.find?_some hfind
  rw [← hsequence]
  exact List.mem_reverse.mp (List.mem_of_find?_eq_some hfind)

/-- The outcome of a drain depends on the object alone. -/
theorem drain_ok_congr {system other : System} (hobject : other.object = system.object)
    {batch : List Correlation} :
    (drain.execute other).1 = .ok batch ↔ (drain.execute system).1 = .ok batch := by
  rw [drain_eq_ok_iff, drain_eq_ok_iff, hobject]

end Installation

namespace Command

open Installation

/-! The drains of a run -/

/-- The system that drain number `n` finds, where a run begins to collect with `started`. -/
def beforeDrain (started : System) (n : Nat) : System :=
  ((collect {} n).execute started).2

/-- The last of several drains comes after the others. -/
theorem collect_succ (collector : Collector) (n : Nat) :
    collect collector (n + 1) = collect collector n >>= drainOnce := by
  induction n generalizing collector with
  | zero =>
      show (drainOnce collector >>= fun collector => pure collector) = pure collector >>= drainOnce
      rw [bind_pure, pure_bind]
  | succ n ih =>
      have hrest : (fun collector => collect collector (n + 1)) =
          fun collector => collect collector n >>= drainOnce := funext ih
      show (drainOnce collector >>= fun collector => collect collector (n + 1)) =
        (drainOnce collector >>= fun collector => collect collector n) >>= drainOnce
      rw [hrest, bind_assoc]

/-- Draining once adds to the collector what the drain gives. -/
theorem execute_drainOnce (collector : Collector) {system after : System}
    {batch : List Correlation} (h : drain.execute system = (.ok batch, after)) :
    ∃ events, (drainOnce collector).execute system =
      (.ok (collector.add batch), { after with events }) := by
  unfold drainOnce
  rw [execute_bind, h]
  dsimp only
  split <;> exact ⟨_, rfl⟩

/-- A drain that was noted in the log did succeed, and its batch was collected. -/
theorem drain_of_drainOnce {collector added : Collector} {system after : System}
    (h : (drainOnce collector).execute system = (.ok added, after)) :
    ∃ batch, (drain.execute system).1 = .ok batch ∧ added = collector.add batch := by
  obtain ⟨batch, between, hdrain, -⟩ := execute_bind_ok h
  obtain ⟨events, hadded⟩ := execute_drainOnce collector hdrain
  rw [hadded] at h
  cases h
  exact ⟨batch, congrArg Prod.fst hdrain, rfl⟩

/-- **What a collector owes to the drains before number `n`.**  It has what one of them found
under a number, unless a later one of them gave another request id there. -/
def Collects (started : System) (collector : Collector) (n : Nat) : Prop :=
  ∀ i < n, ∀ c : Correlation,
    (beforeDrain started i).object.foundRequestId? c.sequence = some c.requestId →
      collector.requestId? c.sequence = some c.requestId ∨
        ∃ j, i < j ∧ j < n ∧ ∃ requestId ≠ c.requestId,
          Delivers (beforeDrain started j) ⟨c.sequence, requestId⟩

variable {started : System} {collector : Collector} {n : Nat}

/-- **One more drain.**  The collector gets what the drain gave. -/
theorem Collects.add (h : Collects started collector n) {batch : List Correlation}
    (hdrain : (drain.execute (beforeDrain started n)).1 = .ok batch) :
    Collects started (collector.add batch) (n + 1) := by
  intro i hi c hfound
  have hadd : (collector.add batch).requestId? c.sequence =
      ((beforeDrain started n).object.foundRequestId? c.sequence).or
        (collector.requestId? c.sequence) := by
    rw [Collector.requestId?_add, find?_batch hdrain]
  rcases Nat.lt_succ_iff_lt_or_eq.mp hi with hi | rfl
  · rcases h i hi c hfound with hheld | ⟨j, hij, hj, requestId, hne, hdelivers⟩
    · cases hnew : (beforeDrain started n).object.foundRequestId? c.sequence with
      | none =>
          left
          rw [hadd, hnew, Option.none_or, hheld]
      | some requestId =>
          by_cases hsame : requestId = c.requestId
          · left
            rw [hadd, hnew, hsame, Option.some_or]
          · right
            have hdrains : Drains (beforeDrain started n) := ⟨batch, hdrain⟩
            exact ⟨n, hi, Nat.lt_succ_self n, requestId, hsame, hdrains.delivers hnew⟩
    · exact Or.inr ⟨j, hij, Nat.lt_succ_of_lt hj, requestId, hne, hdelivers⟩
  · left
    rw [hadd, hfound, Option.some_or]

/-- Where several drains succeed, each of them did, and the collector has what it owes. -/
theorem collects_of_collect_ok {after : System}
    (h : (collect {} n).execute started = (.ok collector, after)) :
    (∀ i < n, Drains (beforeDrain started i)) ∧ Collects started collector n := by
  induction n generalizing collector after with
  | zero =>
      exact ⟨fun i hi => absurd hi (Nat.not_lt_zero i), fun i hi => absurd hi (Nat.not_lt_zero i)⟩
  | succ n ih =>
      rw [collect_succ] at h
      obtain ⟨earlier, between, hearlier, hlast⟩ := execute_bind_ok h
      obtain ⟨hdrains, hcollects⟩ := ih hearlier
      have hbefore : beforeDrain started n = between := by rw [beforeDrain, hearlier]
      obtain ⟨batch, hdrain, rfl⟩ := drain_of_drainOnce hlast
      rw [← hbefore] at hdrain
      refine ⟨fun i hi => ?_, hcollects.add hdrain⟩
      rcases Nat.lt_succ_iff_lt_or_eq.mp hi with hi | rfl
      · exact hdrains i hi
      · exact ⟨batch, hdrain⟩

/-- Several drains succeed if each of them does. -/
theorem collect_ok_of_drains (h : ∀ i < n, Drains (beforeDrain started i)) :
    ∃ collector, (collect {} n).execute started = (.ok collector, beforeDrain started n) := by
  induction n with
  | zero => exact ⟨{}, rfl⟩
  | succ n ih =>
      obtain ⟨earlier, hearlier⟩ := ih fun i hi => h i (Nat.lt_succ_of_lt hi)
      obtain ⟨batch, hbatch⟩ := h n (Nat.lt_succ_self n)
      have hdrain : drain.execute (beforeDrain started n) =
          (.ok batch, (drain.execute (beforeDrain started n)).2) := Prod.ext hbatch rfl
      obtain ⟨events, hlast⟩ := execute_drainOnce earlier hdrain
      have hall : (collect {} (n + 1)).execute started =
          (.ok (earlier.add batch), { (drain.execute (beforeDrain started n)).2 with events }) := by
        rw [collect_succ, execute_bind, hearlier]
        exact hlast
      exact ⟨earlier.add batch, by rw [beforeDrain, hall]⟩

end Command

end MeshTrace
