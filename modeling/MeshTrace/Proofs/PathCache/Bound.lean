import MeshTrace.Proofs.Maps.Ring
import MeshTrace.Proofs.Maps.Table
import MeshTrace.Proofs.Program.Run

/-!
# The path cache has room for every path

Every cached trace id is listed in the eviction ring, so the ring bounds the cache.
The invariant `Tracks` ties the two together: the ring lists the newest ids of all
that were cached, and no other id is cached.  It outlives whatever the programs do:

* `Tracks.cachePath` — caching one more path, whether its id is new, cached already
  or the very id that is evicted;
* `Tracks.of_kept` — taking a record away, which leaves its slots behind;
* `Tracks.run` — a whole history of runs.

The ring lists at most `ringSize - 1` ids, so there is room for one more path before
the oldest is evicted (`path_cache_bounded`).
-/

namespace MeshTrace

/-- The ring lists the newest of the trace ids that were received, and only listed
ids are cached. -/
structure Maps.Tracks (maps : Maps) (received : List UInt64) : Prop where
  ring : maps.ring.Lists (Ring.newest received)
  capacity : maps.paths.capacity = some ringSize
  listed : ∀ traceId, maps.paths.contains traceId → traceId ∈ Ring.newest received

namespace Maps.Tracks

variable {maps after : Maps} {received : List UInt64}

/-- Fresh maps track nothing. -/
theorem fresh (h : maps.ring = .fresh) (hpaths : maps.paths = .empty (some ringSize)) :
    maps.Tracks [] where
  ring := by
    rw [h]
    exact Ring.lists_fresh
  capacity := by rw [hpaths]; rfl
  listed := by
    intro traceId hcontains
    rw [hpaths, Table.contains_eq_isSome_get?, Table.get?_empty] at hcontains
    cases hcontains

/-- Before the oldest path is evicted there is room for one more. -/
theorem isFull_eq_false (h : maps.Tracks received) : maps.paths.isFull = false :=
  Table.isFull_eq_false_of_contains h.capacity h.listed h.ring.length_lt

/-- Taking a record away leaves the cache tracked. -/
theorem of_kept (h : maps.Tracks received) (hkept : Kernel.CacheKept maps after) :
    after.Tracks received := by
  obtain ⟨hring, hpaths⟩ := hkept
  refine ⟨by rw [hring]; exact h.ring, ?_, ?_⟩
  · rcases hpaths with hsame | ⟨traceId, herase⟩
    · rw [hsame]; exact h.capacity
    · rw [herase]; exact h.capacity
  · intro other hcontains
    rcases hpaths with hsame | ⟨traceId, herase⟩
    · rw [hsame] at hcontains
      exact h.listed other hcontains
    · rw [herase] at hcontains
      exact h.listed other (Table.contains_of_contains_erase hcontains).2

/-- **Caching keeps the cache tracked.**  The new id is listed last.  When the ring is
full the oldest listed id leaves the cache, so whatever is still cached is listed
behind it; this holds also when the evicted id is the new one. -/
theorem cachePath (h : maps.Tracks received) (traceId : UInt64) (path : Path) :
    (maps.cachePath traceId path).2.Tracks (received ++ [traceId]) := by
  obtain ⟨ring, hpush, hlists⟩ := h.ring.push_newest traceId
  have hnewest := Ring.newest_append received traceId
  by_cases hfree : received.length + 1 < ringSize
  · have hcached : (maps.cachePath traceId path).2 =
        { maps with paths := maps.paths.insert traceId path, ring } := by
      simp only [Maps.cachePath, h.ring.get?_head, h.ring.get?_tail, hpush, if_pos hfree]
    rw [hcached]
    refine ⟨hlists, by simpa using h.capacity, ?_⟩
    intro other hcontains
    rw [hnewest, if_pos hfree]
    rcases Table.contains_insert_cases hcontains with rfl | hold
    · exact List.mem_append_right _ List.mem_cons_self
    · exact List.mem_append_left _ (h.listed other hold)
  · cases hids : Ring.newest received with
    | nil =>
        have hlength := Ring.length_newest received
        rw [hids, List.length_nil] at hlength
        unfold ringSize at *
        omega
    | cons oldest rest =>
        have hcached : (maps.cachePath traceId path).2 =
            { maps with paths := (maps.paths.insert traceId path).erase oldest, ring } := by
          simp only [Maps.cachePath, h.ring.get?_head, h.ring.get?_tail, hpush, if_neg hfree,
            hids, List.head?_cons]
        rw [hcached]
        refine ⟨hlists, by simpa using h.capacity, ?_⟩
        intro other hcontains
        obtain ⟨hother, hinserted⟩ := Table.contains_of_contains_erase hcontains
        rw [hnewest, if_neg hfree, hids, List.tail_cons]
        rcases Table.contains_insert_cases hinserted with rfl | hold
        · exact List.mem_append_right _ List.mem_cons_self
        · have hlisted := h.listed other hold
          rw [hids] at hlisted
          rcases List.mem_cons.mp hlisted with heq | hrest
          · exact absurd heq hother
          · exact List.mem_append_left _ hrest

/-- One run of a program keeps the cache tracked. -/
theorem invoke {kernel : Kernel} (h : kernel.maps.Tracks received) (invocation : Invocation) :
    (kernel.invoke invocation).maps.Tracks
      (received ++ invocation.received?.toList.map (·.1)) := by
  cases hreceived : invocation.received? with
  | none =>
      simpa using h.of_kept (Kernel.invoke_cache hreceived)
  | some frame =>
      obtain ⟨traceId, path⟩ := frame
      rw [Kernel.invoke_cachePath hreceived]
      exact h.cachePath traceId path

/-- A history of runs keeps the cache tracked. -/
theorem run {kernel : Kernel} (h : kernel.maps.Tracks received) (history : List Invocation) :
    (kernel.run history).maps.Tracks
      (received ++ (Invocation.received history).map (·.1)) := by
  induction history generalizing kernel received with
  | nil => simpa [Kernel.run, Invocation.received] using h
  | cons invocation rest ih =>
      have hrest := ih (h.invoke invocation)
      rw [List.append_assoc, ← List.map_append] at hrest
      have hreceived : Invocation.received (invocation :: rest) =
          invocation.received?.toList ++ Invocation.received rest := by
        unfold Invocation.received
        cases h : invocation.received? <;> simp [h]
      rw [hreceived]
      exact hrest

end Maps.Tracks

/-- **The path cache is bounded by its ring.**  Whatever programs have run since the
maps were made, in whatever order: head and tail are slot numbers, every cached
trace id stands in a live slot, so there are no more records than live slots, and
the live slots are as many as the context frames cached so far, but at most
`ringSize - 1`.  Hence a path can always be stored. -/
theorem path_cache_bounded (service : UInt8) (targets : List JumpTarget)
    (history : List Invocation) :
    let maps := ((Kernel.loaded service targets).run history).maps
    let head := maps.ring.head.value
    let tail := maps.ring.tail.value
    let live := (Ring.occupancy head tail).toNat
    maps.ring.head.get? = some head ∧ maps.ring.tail.get? = some tail ∧
      head.toNat < ringSize ∧ tail.toNat < ringSize ∧
      (∀ traceId, maps.paths.contains traceId → some traceId ∈ maps.ring.window head live) ∧
      maps.paths.size ≤ live ∧
      live = min (Invocation.received history).length (ringSize - 1) ∧
      maps.paths.capacity = some ringSize ∧
      ∀ traceId path, (maps.paths.insert traceId path).get? traceId = some path := by
  intro maps head tail live
  have hfresh : (Kernel.loaded service targets).maps.Tracks [] := .fresh rfl rfl
  have h : maps.Tracks ((Invocation.received history).map (·.1)) := by
    simpa using hfresh.run history
  have hlive : live = (Ring.newest ((Invocation.received history).map (·.1))).length :=
    h.ring.toNat_occupancy
  refine ⟨h.ring.get?_head, h.ring.get?_tail, h.ring.head_lt, h.ring.tail_lt, ?_, ?_, ?_,
    h.capacity, ?_⟩
  · intro traceId hcontains
    have hwindow : maps.ring.window head live = _ := h.ring.window_eq
    rw [hwindow]
    exact List.mem_map_of_mem (h.listed traceId hcontains)
  · rw [hlive]
    exact Table.size_le_of_contains h.listed
  · rw [hlive, Ring.length_newest, List.length_map]
  · intro traceId path
    rw [Table.insert_of_not_isFull _ _ _ h.isFull_eq_false, Table.get?_put, if_pos rfl]

end MeshTrace
