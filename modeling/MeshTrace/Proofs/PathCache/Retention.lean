import MeshTrace.Proofs.PathCache.History

/-!
# How long a record stays in the path cache

The record that is due to a trace stays until an insertion drives the trace's id out of
the eviction ring.  Every insertion behind the first `ringSize - 1` drives one id out,
that of the insertion `ringSize - 1` places before it.  So a record is lost if its trace
was cached once before, at a place that passes out of the ring from the record's own
insertion on, and it is found otherwise (`latest_record_found_iff`).

A trace that is new to the ring keeps its record for as many insertions
(`Remembers.found_of_not_mem_listed`).  Of a trace that is cached again while it is listed,
the ring holds two places, and the older one takes the new record along: a record can be
lost by the very insertion that stored it (`fresh_record_evicted`).
-/

namespace MeshTrace

open CacheEvent

/-- **When the record of a trace is still there.**  Let `path` be cached for a trace behind
the insertions of `earlier`, and let nothing have happened to the trace since.  The record
is found exactly if no place that passed out of the ring from its own insertion on was
listed for the trace; else there is no record of the trace at all. -/
theorem latest_record_found_iff (id : UInt8) {capacity : Option Nat}
    (hroom : ∀ room, capacity = some room → ringSize ≤ room) (history : List ServiceStep)
    {traceId : UInt64} {path : Path} {earlier : List CacheEvent}
    (hlatest : Latest ((Service.start id capacity).run history).log traceId path earlier) :
    let service := (Service.start id capacity).run history
    let pushed := listed service.log
    let before := (listed earlier).length
    (service.maps.paths.get? traceId = some path ↔
      ∀ place, before ≤ place + (ringSize - 1) → place + (ringSize - 1) < pushed.length →
        pushed[place]? ≠ some traceId) ∧
    (service.maps.paths.get? traceId ≠ some path → service.maps.paths.get? traceId = none) := by
  intro service pushed before
  have h : Remembers service := (Remembers.start id hroom).run history
  have hfound := h.found_iff_spares hlatest
  exact ⟨hfound, fun hlost => h.get?_eq_none_of_not_spares hlatest (mt hfound.mpr hlost)⟩

/-- **A trace that is new to the ring keeps its record** for `ringSize - 1` insertions, its
own included. -/
theorem Remembers.found_of_not_mem_listed {service : Service} (h : Remembers service)
    {traceId : UInt64} {path : Path} {earlier : List CacheEvent}
    (hlatest : Latest service.log traceId path earlier) (hnew : traceId ∉ listed earlier)
    (hrecent : (listed service.log).length ≤ (listed earlier).length + (ringSize - 1)) :
    service.maps.paths.get? traceId = some path := by
  refine (h.found_iff_spares hlatest).mpr fun place _ hplace hid => hnew ?_
  have hbefore : place < (listed earlier).length := by omega
  obtain ⟨later, hlog, -⟩ := hlatest
  rw [hlog, listed_append, List.getElem?_append_left hbefore] at hid
  exact List.mem_of_getElem? hid

/-- Insertions that fill the ring: one of `first`, then one of each of the other traces. -/
def fillRing (first : UInt64) : List (UInt64 × Path) :=
  (first, .single 1) ::
    (List.range (ringSize - 2)).map fun n => (UInt64.ofNat (1000 + n), .single 2)

/-- A history that fills the ring and then caches a path of trace 7. -/
def overflow (first : UInt64) : List ServiceStep :=
  ServiceStep.caching (fillRing first ++ [(7, .single 3)])

/-- The log of the insertions that fill the ring. -/
def fillLog (first : UInt64) : List CacheEvent :=
  (fillRing first).map fun call => .cached call.1 call.2

section

variable (first : UInt64)

/-- The history leaves the insertions that fill the ring and one more. -/
theorem log_overflow :
    ((Service.start 1 none).run (overflow first)).log =
      fillLog first ++ [.cached 7 (.single 3)] := by
  rw [overflow, Service.log_run_caching, List.map_append]
  exact List.nil_append _

theorem latest_overflow :
    Latest ((Service.start 1 none).run (overflow first)).log 7 (.single 3) (fillLog first) := by
  rw [log_overflow]
  exact latest_append_iff.mpr (Or.inl ⟨rfl, rfl⟩)

/-- The first insertions use all the places that the ring has. -/
theorem length_listed_fillLog : (listed (fillLog first)).length = ringSize - 1 := by
  rw [fillLog, listed_map_cached, List.length_map, fillRing, List.length_cons, List.length_map,
    List.length_range]
  unfold ringSize
  omega

/-- Of the places that are listed only the first passes out of the ring. -/
theorem spares_overflow_iff :
    Ring.Spares (listed ((Service.start 1 none).run (overflow first)).log)
      (listed (fillLog first)).length 7 ↔ first ≠ 7 := by
  have hlength := length_listed_fillLog first
  rw [log_overflow, spares_listed_append_iff (Nat.le_refl _)]
  have hleaving : Ring.leaving? (listed (fillLog first)) = some first := by
    refine Ring.leaving?_eq_some_iff.mpr ⟨0, by rw [hlength, Nat.zero_add], ?_⟩
    rw [fillLog, listed_map_cached, fillRing, List.map_cons, List.getElem?_cons_zero]
  simp only [drivesOut?, hleaving, Ring.spares_length, true_and, ne_eq, Option.some.injEq]

end

/-- An insertion into a full ring drives out the first trace, and its own record is found. -/
theorem latest_record_found_overflow :
    Latest ((Service.start 1 none).run (overflow 6)).log 7 (.single 3) (fillLog 6) ∧
      ((Service.start 1 none).run (overflow 6)).maps.paths.get? 7 = some (.single 3) := by
  have hroom : ∀ room, (none : Option Nat) = some room → ringSize ≤ room := by simp
  have hspares := (spares_overflow_iff 6).mpr (by decide)
  exact ⟨latest_overflow 6,
    (latest_record_found_iff 1 hroom (overflow 6) (latest_overflow 6)).1.mpr hspares⟩

/-- **A fresh record can be lost.**  Trace 7 is cached first, and again once the ring is full.
It was cached by one of the last `ringSize - 1` insertions and not used since, and yet it
has no record: its second insertion took the record along with the first one's place. -/
theorem fresh_record_evicted :
    let service := (Service.start 1 none).run (overflow 7)
    Latest service.log 7 (.single 3) (fillLog 7) ∧
      (listed service.log).length ≤ (listed (fillLog 7)).length + (ringSize - 1) ∧
      service.maps.paths.get? 7 = none := by
  intro service
  have h : Remembers service := (Remembers.start 1 (by simp)).run (overflow 7)
  have hlast : (listed [CacheEvent.cached 7 (.single 3)]).length = 1 := rfl
  refine ⟨latest_overflow 7, ?_, h.get?_eq_none_of_not_spares (latest_overflow 7) ?_⟩
  · rw [log_overflow, listed_append, List.length_append, hlast]
    exact Nat.add_le_add_left (by decide) _
  · rw [spares_overflow_iff]
    decide

end MeshTrace
