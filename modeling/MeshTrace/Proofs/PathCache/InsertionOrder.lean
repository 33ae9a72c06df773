import MeshTrace.Proofs.PathCache.History
import Mathlib.Data.List.Nodup

/-!
# The order in which paths are driven out

A service that only caches paths drives their traces out in the order in which they came
in.  The number of insertions tells where head and tail are: the head stays in its place until
the ring is full and then goes round the circle behind the tail, one slot for each path
(`Service.value_head_run_caching`).  What the live slots spell and which id is driven out next
follow from the list of the ids alone, whether or not an id comes twice
(`ring_keeps_insertion_order`).

A trace that was cached once loses its record only by its own slot, so distinct traces keep
exactly the records of the newest insertions (`kept_cachedLog_iff`).
-/

namespace MeshTrace

open CacheEvent

/-- The log of insertions. -/
def cachedLog (calls : List (UInt64 × Path)) : List CacheEvent :=
  calls.map fun call => .cached call.1 call.2

theorem listed_cachedLog (calls : List (UInt64 × Path)) :
    listed (cachedLog calls) = calls.map (·.1) :=
  listed_map_cached calls

/-! ### The records of distinct traces -/

section

variable {calls : List (UInt64 × Path)} {traceId : UInt64} {path : Path}

/-- Of distinct traces each was cached by one insertion, and its path is still due. -/
theorem latest_cachedLog_iff (hdistinct : (calls.map (·.1)).Nodup) {earlier : List CacheEvent} :
    Latest (cachedLog calls) traceId path earlier ↔
      ∃ n, calls[n]? = some (traceId, path) ∧ earlier = cachedLog (calls.take n) := by
  constructor
  · rintro ⟨later, hlog, -⟩
    obtain ⟨before, rest, rfl, rfl, hrest⟩ := List.map_eq_append_iff.mp hlog
    obtain ⟨call, after, rfl, hcall, -⟩ := List.map_eq_cons_iff.mp hrest
    obtain ⟨rfl, rfl⟩ := CacheEvent.cached.inj hcall
    refine ⟨before.length, ?_, ?_⟩
    · rw [List.getElem?_append_right (Nat.le_refl _), Nat.sub_self, List.getElem?_cons_zero]
    · rw [List.take_left, cachedLog]
  · rintro ⟨n, hcall, rfl⟩
    obtain ⟨hbound, hcall⟩ := List.getElem?_eq_some_iff.mp hcall
    have hsplit : calls = calls.take n ++ (traceId, path) :: calls.drop (n + 1) := by
      rw [← hcall, ← List.drop_eq_getElem_cons hbound, List.take_append_drop]
    have hlater : traceId ∉ (calls.drop (n + 1)).map (·.1) := by
      rw [hsplit, List.map_append, List.map_cons] at hdistinct
      exact (List.nodup_cons.mp (List.nodup_append.mp hdistinct).2.1).1
    refine ⟨cachedLog (calls.drop (n + 1)), ?_, ?_⟩
    · conv_lhs => rw [hsplit, cachedLog, List.map_append, List.map_cons]
      rfl
    · intro event hevent hsame
      obtain ⟨call, hmem, rfl⟩ := List.mem_map.mp hevent
      exact hlater (List.mem_map.mpr ⟨call, hmem, hsame⟩)

/-- **Distinct traces keep the newest records.** -/
theorem kept_cachedLog_iff (hdistinct : (calls.map (·.1)).Nodup) :
    Kept (cachedLog calls) traceId path ↔
      (traceId, path) ∈ calls.drop (calls.length - (ringSize - 1)) := by
  have hspares : ∀ n, calls[n]? = some (traceId, path) →
      (Ring.Spares (listed (cachedLog calls)) (listed (cachedLog (calls.take n))).length traceId ↔
        calls.length ≤ n + (ringSize - 1)) := by
    intro n hcall
    have hbound : n < calls.length := (List.getElem?_eq_some_iff.mp hcall).1
    have hid : (calls.map (·.1))[n]? = some traceId := by
      rw [List.getElem?_map, hcall]
      rfl
    have hplace : (calls.take n).length = n := List.length_take_of_le (Nat.le_of_lt hbound)
    rw [listed_cachedLog, listed_cachedLog, List.length_map, hplace,
      Ring.spares_iff_of_nodup hdistinct hid, List.length_map]
  constructor
  · rintro ⟨earlier, hlatest, hkept⟩
    obtain ⟨n, hcall, rfl⟩ := (latest_cachedLog_iff hdistinct).mp hlatest
    have hrecent := (hspares n hcall).mp hkept
    refine List.mem_of_getElem? (i := n - (calls.length - (ringSize - 1))) ?_
    rw [List.getElem?_drop, Nat.add_sub_cancel' (by omega)]
    exact hcall
  · intro hnewest
    obtain ⟨n, hcall⟩ := List.mem_iff_getElem?.mp hnewest
    rw [List.getElem?_drop] at hcall
    exact ⟨_, (latest_cachedLog_iff hdistinct).mpr ⟨_, hcall, rfl⟩,
      (hspares _ hcall).mpr (by omega)⟩

end

/-! ### Head and tail -/

/-- A head that has moved on once for each evicted id leaves the tail at the number of ids. -/
theorem Ring.Lists.value_tail_of_head {ring : Ring} {pushed : List UInt64}
    (h : ring.Lists (newest pushed))
    (hhead : ring.head.value.toNat = (pushed.length - (ringSize - 1)) % ringSize) :
    ring.tail.value.toNat = pushed.length % ringSize := by
  rw [h.tail_eq, hhead, length_newest, slotAfter, Nat.mod_add_mod]
  congr 1
  omega

namespace Service

variable (id : UInt8) (capacity : Option Nat)

/-- A last insertion is a last step. -/
theorem run_caching_append (service : Service) (earlier : List (UInt64 × Path))
    (call : UInt64 × Path) :
    service.run (ServiceStep.caching (earlier ++ [call])) =
      (service.run (ServiceStep.caching earlier)).step (.cache call.1 call.2) := by
  rw [run, run, ServiceStep.caching, ServiceStep.caching, List.map_append, List.foldl_append]
  rfl

/-- A service that starts with insertions has the log of these. -/
theorem log_caching (calls : List (UInt64 × Path)) :
    ((start id capacity).run (ServiceStep.caching calls)).log = cachedLog calls := by
  rw [log_run_caching]
  exact List.nil_append _

/-- The ring lists the newest ids, whether or not there was room for their records. -/
theorem lists_run_caching (calls : List (UInt64 × Path)) :
    ((start id capacity).run (ServiceStep.caching calls)).maps.ring.Lists
      (Ring.newest (calls.map (·.1))) := by
  induction calls using List.reverseRecOn with
  | nil => exact Ring.lists_fresh
  | append_singleton earlier call ih =>
      obtain ⟨ring, hcached, hlists⟩ := Maps.cachePath_of_lists ih call.1 call.2
      rw [run_caching_append, step, hcached, List.map_append]
      exact hlists

/-- The head stays where it is until the ring is full, and then moves on with each path. -/
theorem value_head_run_caching (calls : List (UInt64 × Path)) :
    ((start id capacity).run (ServiceStep.caching calls)).maps.ring.head.value.toNat =
      (calls.length - (ringSize - 1)) % ringSize := by
  induction calls using List.reverseRecOn with
  | nil => rfl
  | append_singleton earlier call ih =>
      have h := lists_run_caching id capacity earlier
      rw [run_caching_append, step, Maps.ring_cachePath h, h.value_head_push, ih,
        Ring.length_newest, List.length_map, List.length_append, List.length_singleton]
      unfold Ring.slotAfter ringSize
      split <;> omega

end Service

/-- **The ring keeps the order of insertion.**  Let a service without records cache paths, the
traces of which may repeat.  Once `ringSize` paths are cached, each further one drives out the
trace that was listed `ringSize - 1` insertions before it, and none is driven out before.  The
tail is at the number of insertions, the head `ringSize - 1` behind it, both counted round the
circle, and the live slots between them spell the newest ids in order.  If the traces are
distinct, and there is room for `ringSize` records, those that are there are those of the newest
insertions, each with its own path. -/
theorem ring_keeps_insertion_order (id : UInt8) (capacity : Option Nat)
    (earlier : List (UInt64 × Path)) (traceId : UInt64) (path : Path) :
    let maps := ((Service.start id capacity).run (ServiceStep.caching earlier)).maps
    let calls := earlier ++ [(traceId, path)]
    let ids := calls.map (·.1)
    let cached := maps.cachePath traceId path
    let ring := cached.2.ring
    cached.1 =
        .stored (if calls.length < ringSize then none else ids[calls.length - ringSize]?) ∧
      ring.tail.value.toNat = calls.length % ringSize ∧
      ring.head.value.toNat = (calls.length - (ringSize - 1)) % ringSize ∧
      ring.window ring.head.value (Ring.occupancy ring.head.value ring.tail.value).toNat =
        (ids.drop (calls.length - (ringSize - 1))).map some ∧
      ((∀ room, capacity = some room → ringSize ≤ room) → ids.Nodup →
        ∀ other found, cached.2.paths.get? other = some found ↔
          (other, found) ∈ calls.drop (calls.length - (ringSize - 1))) := by
  intro maps calls ids cached ring
  have hmaps : ((Service.start id capacity).run (ServiceStep.caching calls)).maps = cached.2 := by
    rw [Service.run_caching_append]
    rfl
  have hlength : calls.length = earlier.length + 1 := List.length_append
  have hids : ids.length = calls.length := List.length_map _
  have hlists : ring.Lists (Ring.newest ids) := by
    have hlists := Service.lists_run_caching id capacity calls
    rwa [hmaps] at hlists
  have hhead : ring.head.value.toNat = (calls.length - (ringSize - 1)) % ringSize := by
    rw [← Service.value_head_run_caching id capacity calls, hmaps]
  refine ⟨?_, ?_, hhead, ?_, fun hroom hdistinct other found => ?_⟩
  · have hbefore := Service.lists_run_caching id capacity earlier
    obtain ⟨pushed, hcached, -⟩ := Maps.cachePath_of_lists hbefore traceId path
    have houtcome : cached.1 = .stored (Ring.leaving? (earlier.map (·.1))) :=
      congrArg Prod.fst hcached
    have hsplit : ids = earlier.map (·.1) ++ [traceId] := List.map_append
    rw [houtcome, Ring.leaving?_eq_getElem? _ traceId, hsplit, hlength, List.length_map]
  · rw [← hids]
    exact hlists.value_tail_of_head (by rw [hhead, hids])
  · rw [hlists.window_eq, Ring.newest, hids]
  · have hafter : Remembers ((Service.start id capacity).run (ServiceStep.caching calls)) :=
      (Remembers.start id hroom).run _
    rw [← hmaps, hafter.found, Service.log_caching]
    exact kept_cachedLog_iff hdistinct

/-- Paths of `count` traces, no two of them the same. -/
def distinctCalls (count : Nat) : List (UInt64 × Path) :=
  (List.range count).map fun n => (UInt64.ofNat n, .single 1)

/-- One more call is for one more trace. -/
theorem distinctCalls_succ (count : Nat) :
    distinctCalls (count + 1) = distinctCalls count ++ [(UInt64.ofNat count, .single 1)] := by
  rw [distinctCalls, List.range_succ, List.map_append]
  rfl

theorem length_distinctCalls (count : Nat) : (distinctCalls count).length = count := by
  rw [distinctCalls, List.length_map, List.length_range]

theorem getElem?_distinctCalls {count n : Nat} (h : n < count) :
    (distinctCalls count)[n]? = some (UInt64.ofNat n, .single 1) := by
  rw [distinctCalls, List.getElem?_map, List.getElem?_range h]
  rfl

/-- As many traces as there are ids can differ. -/
theorem nodup_distinctCalls {count : Nat} (h : count ≤ UInt64.size) :
    ((distinctCalls count).map (·.1)).Nodup := by
  rw [distinctCalls, List.map_map]
  refine List.Nodup.map_on (fun m hm n hn hsame => ?_) List.nodup_range
  have hm : m < UInt64.size := Nat.lt_of_lt_of_le (List.mem_range.mp hm) h
  have hn : n < UInt64.size := Nat.lt_of_lt_of_le (List.mem_range.mp hn) h
  have hvalue : (UInt64.ofNat m).toNat = (UInt64.ofNat n).toNat := congrArg UInt64.toNat hsame
  rwa [UInt64.toNat_ofNat_of_lt' hm, UInt64.toNat_ofNat_of_lt' hn] at hvalue

/-- When the tail is back at the first slot for the third time, the trace of the oldest of the
`ringSize` newest insertions is driven out, and the head is at the second slot. -/
theorem ring_keeps_insertion_order_third_round :
    let maps := ((Service.start 1 (some ringSize)).run
      (ServiceStep.caching (distinctCalls (3 * ringSize - 1)))).maps
    let cached := maps.cachePath (UInt64.ofNat (3 * ringSize - 1)) (.single 1)
    cached.1 = .stored (some (UInt64.ofNat (2 * ringSize))) ∧
      cached.2.ring.tail.value.toNat = 0 ∧ cached.2.ring.head.value.toNat = 1 ∧
      cached.2.paths.get? (UInt64.ofNat (2 * ringSize + 1)) = some (.single 1) := by
  dsimp only
  have hroom : ∀ room, some ringSize = some room → ringSize ≤ room := by simp
  have hcalls : distinctCalls (3 * ringSize - 1) ++ [(UInt64.ofNat (3 * ringSize - 1), .single 1)] =
      distinctCalls (3 * ringSize) := (distinctCalls_succ _).symm
  obtain ⟨houtcome, htail, hhead, -, hfound⟩ :=
    ring_keeps_insertion_order 1 (some ringSize) (distinctCalls (3 * ringSize - 1)) _ (.single 1)
  rw [hcalls, length_distinctCalls] at houtcome htail hhead hfound
  refine ⟨?_, htail.trans (Nat.mul_mod_left 3 ringSize), hhead.trans (by decide), ?_⟩
  · have holdest : ((distinctCalls (3 * ringSize)).map (·.1))[3 * ringSize - ringSize]? =
        some (UInt64.ofNat (2 * ringSize)) := by
      rw [List.getElem?_map, getElem?_distinctCalls (by decide)]
      rfl
    rw [houtcome, holdest, if_neg (by decide)]
  · refine (hfound hroom (nodup_distinctCalls (by decide)) _ _).mpr ?_
    refine List.mem_of_getElem? (i := 0) ?_
    rw [List.getElem?_drop, getElem?_distinctCalls (by decide)]
    rfl

end MeshTrace
