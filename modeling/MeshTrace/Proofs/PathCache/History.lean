import MeshTrace.Proofs.Maps.Ring
import MeshTrace.Proofs.Maps.Table
import MeshTrace.Proofs.PathCache.Lookup
import MeshTrace.Proofs.Propagation
import Mathlib.Data.List.Induction

/-!
# What a path cache remembers

A service caches the paths that it receives and uses them up in the messages that it
sends on.  Here a service is its maps with a log of both kinds of event, and takes its
steps in any order (`Service.run`).

A record is due to a trace when the last event of the trace cached it (`Latest`).  The log
leaves it to the trace unless an insertion drove the trace's id out of the eviction ring:
a later insertion, or the record's own (`Kept`).  A ring lists a trace id once for each
time that it was cached, so an id can be driven out by a slot that is older than its
record.

The invariant `Remembers` says that the records in the cache are those that the log
leaves.  It outlives every kind of step (`Remembers.cached`, `Remembers.used`) and so every
run (`Remembers.run`).
-/

namespace MeshTrace

/-- What a service does. -/
inductive ServiceStep where
  | cache (traceId : UInt64) (path : Path)
  | receive (bytes : List UInt8)
  /-- A message is sent on, whatever the argument slots point at. -/
  | propagate (args : ArgSlots) (peer : UInt32) (msg : Message)
deriving DecidableEq

/-- The trace id and the path that a step caches, if it does. -/
def ServiceStep.received? : ServiceStep → Option (UInt64 × Path)
  | cache traceId path => some (traceId, path)
  | receive bytes => Context.read? bytes
  | propagate .. => none

/-- The paths that are cached in the course of a history. -/
def ServiceStep.received (history : List ServiceStep) : List (UInt64 × Path) :=
  history.filterMap received?

/-- Steps that cache paths, one after the other. -/
def ServiceStep.caching (calls : List (UInt64 × Path)) : List ServiceStep :=
  calls.map fun call => .cache call.1 call.2

/-- What happens to the cached paths. -/
inductive CacheEvent where
  | cached (traceId : UInt64) (path : Path)
  /-- A message went out with the context frame of the trace. -/
  | used (traceId : UInt64)
deriving DecidableEq

namespace CacheEvent

/-- The trace that an event is about. -/
def traceId : CacheEvent → UInt64
  | cached traceId _ | used traceId => traceId

/-- The trace id that an event adds to the eviction ring. -/
def listed? : CacheEvent → Option UInt64
  | cached traceId _ => some traceId
  | used _ => none

/-- The trace ids that were cached, oldest first. -/
def listed (log : List CacheEvent) : List UInt64 :=
  log.filterMap listed?

/-- The ids of a longer log are those of its two parts. -/
theorem listed_append (log later : List CacheEvent) :
    listed (log ++ later) = listed log ++ listed later :=
  List.filterMap_append

/-- Insertions list their ids. -/
theorem listed_map_cached (calls : List (UInt64 × Path)) :
    listed (calls.map fun call => .cached call.1 call.2) = calls.map (·.1) := by
  have hlisted : listed? ∘ (fun call : UInt64 × Path => cached call.1 call.2) =
      fun call => some call.1 := rfl
  rw [listed, List.filterMap_map, hlisted, List.filterMap_eq_map']

end CacheEvent

open CacheEvent

/-- **The record that is due to a trace.**  `path` was cached for it behind `earlier`, and
nothing happened to the trace since. -/
def Latest (log : List CacheEvent) (traceId : UInt64) (path : Path)
    (earlier : List CacheEvent) : Prop :=
  ∃ later, log = earlier ++ .cached traceId path :: later ∧
    ∀ event ∈ later, event.traceId ≠ traceId

/-- An event that is new in the log caches the record, or is about another trace. -/
theorem latest_append_iff {log earlier : List CacheEvent} {event : CacheEvent}
    {traceId : UInt64} {path : Path} :
    Latest (log ++ [event]) traceId path earlier ↔
      (event = .cached traceId path ∧ earlier = log) ∨
        (event.traceId ≠ traceId ∧ Latest log traceId path earlier) := by
  constructor
  · rintro ⟨later, hlog, hquiet⟩
    -- The last event cached the record itself, or it is one of those that left it alone.
    rcases List.eq_nil_or_concat later with rfl | ⟨before, last, rfl⟩
    · obtain ⟨rfl, hevent⟩ := List.append_inj' hlog rfl
      exact Or.inl ⟨(List.cons.inj hevent).1, rfl⟩
    · rw [List.concat_eq_append] at hlog hquiet
      rw [← List.cons_append, ← List.append_assoc] at hlog
      obtain ⟨rfl, hevent⟩ := List.append_inj' hlog rfl
      obtain rfl := (List.cons.inj hevent).1
      exact Or.inr ⟨hquiet event (by simp), before, rfl,
        fun other hother => hquiet other (List.mem_append_left _ hother)⟩
  · rintro (⟨rfl, rfl⟩ | ⟨hother, later, rfl, hquiet⟩)
    · exact ⟨[], rfl, by simp⟩
    · refine ⟨later ++ [event], by simp, ?_⟩
      intro other hmem
      rcases List.mem_append.mp hmem with hlater | hlast
      · exact hquiet other hlater
      · rwa [List.mem_singleton.mp hlast]

/-- Only one record is due to a trace. -/
theorem Latest.unique {log earlier earlier' : List CacheEvent} {traceId : UInt64}
    {path path' : Path} (h : Latest log traceId path earlier)
    (h' : Latest log traceId path' earlier') : path = path' ∧ earlier = earlier' := by
  induction log using List.reverseRecOn with
  | nil =>
      obtain ⟨later, hlog, -⟩ := h
      exact absurd hlog.symm (List.append_ne_nil_of_right_ne_nil _ (List.cons_ne_nil _ _))
  | append_singleton log event ih =>
      rcases latest_append_iff.mp h with ⟨rfl, rfl⟩ | ⟨hother, hold⟩ <;>
        rcases latest_append_iff.mp h' with ⟨hevent, rfl⟩ | ⟨hother', hold'⟩
      · cases hevent
        exact ⟨rfl, rfl⟩
      · exact absurd rfl hother'
      · exact absurd (congrArg CacheEvent.traceId hevent) hother
      · exact ih hold hold'

/-- The insertion of a record stands in the list behind the earlier ones. -/
theorem Latest.getElem?_listed {log earlier : List CacheEvent} {traceId : UInt64} {path : Path}
    (h : Latest log traceId path earlier) :
    (listed log)[(listed earlier).length]? = some traceId := by
  obtain ⟨later, rfl, -⟩ := h
  rw [listed_append, List.getElem?_append_right (Nat.le_refl _), Nat.sub_self]
  rfl

/-- The insertion of a record counts, so there were fewer before it. -/
theorem Latest.length_listed_lt {log earlier : List CacheEvent} {traceId : UInt64} {path : Path}
    (h : Latest log traceId path earlier) :
    (listed earlier).length < (listed log).length :=
  (List.getElem?_eq_some_iff.mp h.getElem?_listed).1

/-- The trace id that an event drives out of the eviction ring. -/
def CacheEvent.drivesOut? (log : List CacheEvent) : CacheEvent → Option UInt64
  | cached .. => Ring.leaving? (listed log)
  | used _ => none

/-- An event spares an id behind the first `count` insertions if those before it do and it
does not drive the id out itself. -/
theorem spares_listed_append_iff {log : List CacheEvent} {event : CacheEvent} {count : Nat}
    {traceId : UInt64} (hcount : count ≤ (listed log).length) :
    Ring.Spares (listed (log ++ [event])) count traceId ↔
      Ring.Spares (listed log) count traceId ∧ event.drivesOut? log ≠ some traceId := by
  rw [listed_append]
  cases event with
  | cached other path => exact Ring.spares_append_iff hcount
  | used other =>
      have hnone : listed [CacheEvent.used other] = [] := rfl
      simp only [hnone, List.append_nil, drivesOut?, ne_eq, reduceCtorEq, not_false_eq_true,
        and_true]

/-- **The record that the log leaves to a trace.**  It is due to the trace, and neither its
own insertion nor a later one drove the trace's id out of the ring. -/
def Kept (log : List CacheEvent) (traceId : UInt64) (path : Path) : Prop :=
  ∃ earlier, Latest log traceId path earlier ∧
    Ring.Spares (listed log) (listed earlier).length traceId

/-- A new event keeps a record that it does not drive out, if it cached the record or is
about another trace. -/
theorem kept_append_iff {log : List CacheEvent} {event : CacheEvent} {traceId : UInt64}
    {path : Path} :
    Kept (log ++ [event]) traceId path ↔
      event.drivesOut? log ≠ some traceId ∧
        (event = .cached traceId path ∨ (event.traceId ≠ traceId ∧ Kept log traceId path)) := by
  constructor
  · rintro ⟨earlier, hlatest, hspares⟩
    rcases latest_append_iff.mp hlatest with ⟨rfl, rfl⟩ | ⟨hother, hold⟩
    · exact ⟨((spares_listed_append_iff (Nat.le_refl _)).mp hspares).2, Or.inl rfl⟩
    · obtain ⟨hspared, hdriven⟩ :=
        (spares_listed_append_iff (Nat.le_of_lt hold.length_listed_lt)).mp hspares
      exact ⟨hdriven, Or.inr ⟨hother, earlier, hold, hspared⟩⟩
  · rintro ⟨hdriven, rfl | ⟨hother, earlier, hold, hspared⟩⟩
    · exact ⟨log, latest_append_iff.mpr (Or.inl ⟨rfl, rfl⟩),
        (spares_listed_append_iff (Nat.le_refl _)).mpr ⟨Ring.spares_length _ _, hdriven⟩⟩
    · exact ⟨earlier, latest_append_iff.mpr (Or.inr ⟨hother, hold⟩),
        (spares_listed_append_iff (Nat.le_of_lt hold.length_listed_lt)).mpr ⟨hspared, hdriven⟩⟩

/-- A trace whose record is kept is one of the newest in the ring. -/
theorem Kept.mem_newest {log : List CacheEvent} {traceId : UInt64} {path : Path}
    (h : Kept log traceId path) : traceId ∈ Ring.newest (listed log) := by
  obtain ⟨earlier, hlatest, hspares⟩ := h
  exact Ring.mem_newest_of_spares hlatest.getElem?_listed hspares

/-- The maps of a service and what happened to its cached paths, oldest first. -/
structure Service where
  maps : Maps
  log : List CacheEvent := []

namespace Service

/-- A service that has received nothing. -/
def start (id : UInt8) (capacity : Option Nat) : Service where
  maps := { paths := .empty capacity, service := .holding id }

/-- What is remembered of a message that was sent on. -/
def sentEvents : Propagation → List CacheEvent
  | .injected traceId _ => [.used traceId]
  | .pass | .aborted _ => []

/-- What is remembered of a message that arrived. -/
def receivedEvents (bytes : List UInt8) : List CacheEvent :=
  match Context.read? bytes with
  | some (traceId, path) => [.cached traceId path]
  | none => []

/-- The service after one step. -/
def step (service : Service) : ServiceStep → Service
  | .cache traceId path =>
    ⟨(service.maps.cachePath traceId path).2, service.log ++ [.cached traceId path]⟩
  | .receive bytes => ⟨(service.maps.receive bytes).2, service.log ++ receivedEvents bytes⟩
  | .propagate args peer msg =>
    let sent := { service.maps with args }.propagate peer msg
    ⟨sent.2.2, service.log ++ sentEvents sent.1⟩

/-- The service after some steps, the first one first. -/
def run (service : Service) (history : List ServiceStep) : Service :=
  history.foldl step service

/-- **All that a step does** to the cache: nothing, or it caches a path, or it uses one
up. -/
inductive Stepped (service : Service) : Service → Prop
  | kept {maps : Maps} (hring : maps.ring = service.maps.ring)
      (hpaths : maps.paths = service.maps.paths)
      (hservice : maps.service = service.maps.service) :
      Stepped service ⟨maps, service.log⟩
  | cached (traceId : UInt64) (path : Path) :
      Stepped service
        ⟨(service.maps.cachePath traceId path).2, service.log ++ [.cached traceId path]⟩
  | used (traceId : UInt64) {maps : Maps} (hring : maps.ring = service.maps.ring)
      (hpaths : maps.paths = service.maps.paths.erase traceId)
      (hservice : maps.service = service.maps.service) :
      Stepped service ⟨maps, service.log ++ [.used traceId]⟩

open Propagation in
/-- A step ends in one of these ways. -/
theorem step_stepped (service : Service) (s : ServiceStep) :
    Stepped service (service.step s) := by
  cases s with
  | cache traceId path => exact .cached traceId path
  | receive bytes =>
      cases hread : Context.read? bytes with
      | none =>
          simp only [step, Maps.receive, receivedEvents, hread, List.append_nil]
          exact .kept rfl rfl rfl
      | some frame =>
          simp only [step, Maps.receive, receivedEvents, hread]
          exact .cached frame.1 frame.2
  | propagate args peer msg =>
      have hends := Maps.propagate_propagated { service.maps with args } peer msg
      simp only [step]
      generalize Maps.propagate { service.maps with args } peer msg = sent at hends ⊢
      cases hends with
      | unread =>
          simp only [sentEvents, List.append_nil]
          exact .kept rfl rfl rfl
      | stopped | aborted =>
          simp only [sentEvents, List.append_nil]
          exact .kept (ring_trackNewName ..) (paths_trackNewName ..) (service_trackNewName ..)
      | injected => exact .used _ (ring_trackNewName ..) rfl (service_trackNewName ..)

/-- What a step adds to the ring is told by the step alone. -/
theorem listed_step (service : Service) (s : ServiceStep) :
    listed (service.step s).log = listed service.log ++ s.received?.toList.map (·.1) := by
  cases s with
  | cache traceId path => exact listed_append _ _
  | receive bytes =>
      simp only [step, receivedEvents, listed_append, ServiceStep.received?]
      cases Context.read? bytes <;> rfl
  | propagate args peer msg =>
      simp only [step, listed_append, ServiceStep.received?]
      congr 1
      cases ({ service.maps with args }.propagate peer msg).1 <;> rfl

/-- A history adds to the ring what it receives, in order. -/
theorem listed_run (service : Service) (history : List ServiceStep) :
    listed (service.run history).log =
      listed service.log ++ (ServiceStep.received history).map (·.1) := by
  induction history generalizing service with
  | nil => simp [run, ServiceStep.received]
  | cons s rest ih =>
      have hrest := ih (service.step s)
      rw [listed_step, List.append_assoc, ← List.map_append] at hrest
      have hreceived : ServiceStep.received (s :: rest) =
          s.received?.toList ++ ServiceStep.received rest := by
        unfold ServiceStep.received
        cases h : s.received? <;> simp [h]
      rw [hreceived]
      exact hrest

/-- A history of insertions is its own log. -/
theorem log_run_caching (service : Service) (calls : List (UInt64 × Path)) :
    (service.run (ServiceStep.caching calls)).log =
      service.log ++ calls.map fun call => .cached call.1 call.2 := by
  induction calls generalizing service with
  | nil => exact (List.append_nil _).symm
  | cons call rest ih =>
      have hrest := ih (service.step (.cache call.1 call.2))
      rwa [step, List.append_assoc] at hrest

end Service

/-- **What is in the cache, by the log.**  The ring lists the newest of the ids that were
cached, and the records found are those that the log leaves. -/
structure Remembers (service : Service) : Prop where
  ring : service.maps.ring.Lists (Ring.newest (listed service.log))
  room : ∀ capacity, service.maps.paths.capacity = some capacity → ringSize ≤ capacity
  found : ∀ traceId path, service.maps.paths.get? traceId = some path ↔
    Kept service.log traceId path

namespace Remembers

variable {service : Service}

/-- A service that was just started has an empty log and an empty cache. -/
theorem start (id : UInt8) {capacity : Option Nat}
    (hroom : ∀ room, capacity = some room → ringSize ≤ room) :
    Remembers (.start id capacity) where
  ring := by
    have hlisted : listed (Service.start id capacity).log = [] := rfl
    rw [hlisted]
    exact Ring.lists_fresh
  room := hroom
  found traceId path := by
    have hempty : (Service.start id capacity).maps.paths.get? traceId = none :=
      Table.get?_empty _ _
    rw [hempty]
    refine ⟨nofun, ?_⟩
    rintro ⟨earlier, ⟨later, hlog, -⟩, -⟩
    exact absurd hlog.symm (List.append_ne_nil_of_right_ne_nil _ (List.cons_ne_nil _ _))

/-- There is always room for another record, since the ring lists fewer ids than there is room
for. -/
theorem isFull_eq_false (h : Remembers service) : service.maps.paths.isFull = false := by
  cases hcapacity : service.maps.paths.capacity with
  | none => simp [Table.isFull, hcapacity]
  | some capacity =>
      refine Table.isFull_eq_false_of_contains hcapacity ?_
        (Nat.lt_of_lt_of_le h.ring.length_lt (h.room capacity hcapacity))
      intro traceId hcontains
      rw [Table.contains_eq_isSome_get?, Option.isSome_iff_exists] at hcontains
      obtain ⟨path, hfound⟩ := hcontains
      exact ((h.found traceId path).mp hfound).mem_newest

/-- **Caching a path.**  The new record is found unless its own insertion drives it out,
and an older one unless this insertion does. -/
theorem cached (h : Remembers service) (traceId : UInt64) (path : Path) :
    Remembers ⟨(service.maps.cachePath traceId path).2,
      service.log ++ [.cached traceId path]⟩ := by
  have hlisted : listed (service.log ++ [.cached traceId path]) =
      listed service.log ++ [traceId] := listed_append _ _
  obtain ⟨ring, hcached, hring⟩ := Maps.cachePath_of_lists h.ring traceId path
  refine ⟨?_, ?_, fun other found => ?_⟩
  · rw [hlisted, hcached]
    exact hring
  · intro capacity hcapacity
    apply h.room capacity
    rw [← hcapacity, hcached]
    cases Ring.leaving? (listed service.log) <;> simp
  · dsimp only
    rw [Maps.get?_cachePath h.ring h.isFull_eq_false, kept_append_iff]
    by_cases hleaving : Ring.leaving? (listed service.log) = some other
    · simp [drivesOut?, hleaving]
    · by_cases hother : traceId = other
      · subst hother
        simp [drivesOut?, CacheEvent.traceId, hleaving]
      · simp [drivesOut?, CacheEvent.traceId, hleaving, hother, h.found other found]

/-- **Using a path up.**  The trace has no record any more, and nothing is driven out. -/
theorem used (h : Remembers service) (traceId : UInt64) {maps : Maps}
    (hring : maps.ring = service.maps.ring)
    (hpaths : maps.paths = service.maps.paths.erase traceId) :
    Remembers ⟨maps, service.log ++ [.used traceId]⟩ := by
  have hlisted : listed (service.log ++ [.used traceId]) = listed service.log := by
    rw [listed_append]
    exact List.append_nil _
  refine ⟨?_, ?_, fun other found => ?_⟩
  · rw [hlisted, hring]
    exact h.ring
  · intro capacity hcapacity
    apply h.room capacity
    rw [← hcapacity, hpaths, Table.capacity_erase]
  · dsimp only
    rw [hpaths, Table.get?_erase, kept_append_iff]
    by_cases hother : traceId = other
    · simp [hother, CacheEvent.traceId]
    · simp [drivesOut?, CacheEvent.traceId, hother, h.found other found]

/-- Every step keeps what is remembered true. -/
theorem step (h : Remembers service) (s : ServiceStep) : Remembers (service.step s) := by
  have hstep := service.step_stepped s
  generalize service.step s = after at hstep
  cases hstep with
  | kept hring hpaths _ =>
      refine ⟨?_, ?_, ?_⟩
      · rw [hring]
        exact h.ring
      · rw [hpaths]
        exact h.room
      · rw [hpaths]
        exact h.found
  | cached traceId path => exact h.cached traceId path
  | used traceId hring hpaths _ => exact h.used traceId hring hpaths

/-- Every history keeps what is remembered true. -/
theorem run (h : Remembers service) (history : List ServiceStep) :
    Remembers (service.run history) := by
  induction history generalizing service with
  | nil => exact h
  | cons s rest ih => exact ih (h.step s)

/-- The record that is due to a trace is found exactly if no insertion behind it drove the
trace's id out. -/
theorem found_iff_spares (h : Remembers service) {traceId : UInt64} {path : Path}
    {earlier : List CacheEvent} (hlatest : Latest service.log traceId path earlier) :
    service.maps.paths.get? traceId = some path ↔
      Ring.Spares (listed service.log) (listed earlier).length traceId := by
  rw [h.found]
  constructor
  · rintro ⟨earlier', hlatest', hspares⟩
    obtain ⟨-, rfl⟩ := hlatest.unique hlatest'
    exact hspares
  · exact fun hspares => ⟨earlier, hlatest, hspares⟩

/-- A trace whose id was driven out has no record, not even an older one. -/
theorem get?_eq_none_of_not_spares (h : Remembers service) {traceId : UInt64} {path : Path}
    {earlier : List CacheEvent} (hlatest : Latest service.log traceId path earlier)
    (hdriven : ¬ Ring.Spares (listed service.log) (listed earlier).length traceId) :
    service.maps.paths.get? traceId = none := by
  cases hfound : service.maps.paths.get? traceId with
  | none => rfl
  | some found =>
      obtain ⟨earlier', hlatest', hspares⟩ := (h.found traceId found).mp hfound
      obtain ⟨-, rfl⟩ := hlatest'.unique hlatest
      exact absurd hspares hdriven

end Remembers

end MeshTrace
