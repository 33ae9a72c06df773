import MeshTrace.PathCache
import MeshTrace.Proofs.Maps.Ring
import MeshTrace.Proofs.Maps.Table

/-!
# What caching a path changes

Besides the new record, caching adds none: whatever is found afterwards is the path
just cached or was found before (`get?_cachePath_cases`).  Only the cache and its ring
are written to.

With the ring in order and room for one more path, every look-up afterwards is known
(`get?_cachePath`): the id that leaves the ring loses its record, whether it is the new
id or an older one, the new id has its path, and all others are as before.
-/

namespace MeshTrace.Maps

variable (maps : Maps) (traceId : UInt64) (path : Path)

@[simp] theorem service_cachePath : (maps.cachePath traceId path).2.service = maps.service := by
  unfold cachePath
  split
  · split <;> rfl
  · rfl

/-- The records afterwards are those after the insertion, with at most one erased. -/
theorem paths_cachePath :
    (maps.cachePath traceId path).2.paths = maps.paths.insert traceId path ∨
      ∃ oldest, (maps.cachePath traceId path).2.paths =
        (maps.paths.insert traceId path).erase oldest := by
  unfold cachePath
  split
  · split
    · exact Or.inl rfl
    · exact Or.inr ⟨_, rfl⟩
  · exact Or.inl rfl

variable {maps traceId path}

/-- **Caching adds one record at most.** -/
theorem get?_cachePath_cases {other : UInt64} {found : Path}
    (h : (maps.cachePath traceId path).2.paths.get? other = some found) :
    (other = traceId ∧ found = path) ∨ maps.paths.get? other = some found := by
  rcases maps.paths_cachePath traceId path with hinsert | ⟨oldest, herase⟩
  · rw [hinsert] at h
    exact Table.get?_insert_cases h
  · rw [herase] at h
    exact Table.get?_insert_cases (Table.get?_of_get?_erase h).2

/-- **All that caching does** with the ring in order: the path is inserted, the id that
leaves the ring loses its record, and the new id is listed last. -/
theorem cachePath_of_lists {pushed : List UInt64} (h : maps.ring.Lists (Ring.newest pushed))
    (traceId : UInt64) (path : Path) :
    ∃ ring, maps.cachePath traceId path =
        (.stored (Ring.leaving? pushed),
          { maps with
            paths := (Ring.leaving? pushed).elim (maps.paths.insert traceId path)
              (maps.paths.insert traceId path).erase
            ring }) ∧
      ring.Lists (Ring.newest (pushed ++ [traceId])) := by
  obtain ⟨ring, hpush, hlists⟩ := h.push_newest traceId
  refine ⟨ring, ?_, hlists⟩
  have hpush' : maps.ring.push maps.ring.head.value maps.ring.tail.value traceId =
      (Ring.leaving? pushed, ring) := hpush
  simp only [cachePath, h.get?_head, h.get?_tail, hpush']
  cases Ring.leaving? pushed <;> rfl

/-- With head and tail there, the ring afterwards is the one that the id was pushed to. -/
theorem ring_cachePath {listed : List UInt64} (h : maps.ring.Lists listed) (traceId : UInt64)
    (path : Path) :
    (maps.cachePath traceId path).2.ring =
      (maps.ring.push maps.ring.head.value maps.ring.tail.value traceId).2 := by
  simp only [cachePath, h.get?_head, h.get?_tail]
  split <;> simp only [*]

/-- **Every look-up after caching.** -/
theorem get?_cachePath {pushed : List UInt64} (h : maps.ring.Lists (Ring.newest pushed))
    (hroom : maps.paths.isFull = false) (traceId : UInt64) (path : Path) (other : UInt64) :
    (maps.cachePath traceId path).2.paths.get? other =
      if Ring.leaving? pushed = some other then none
      else if traceId = other then some path else maps.paths.get? other := by
  obtain ⟨ring, hcached, -⟩ := cachePath_of_lists h traceId path
  rw [hcached, Table.insert_of_not_isFull _ _ _ hroom]
  cases Ring.leaving? pushed with
  | none => simp only [Option.elim_none, Table.get?_put, reduceCtorEq, if_false]
  | some oldest =>
      simp only [Option.elim_some, Table.get?_erase, Table.get?_put, Option.some.injEq]

/-- Receiving a context frame caches its path. -/
theorem receive_of_read? {bytes : List UInt8} (h : Context.read? bytes = some (traceId, path)) :
    (maps.receive bytes).2 = (maps.cachePath traceId path).2 := by
  simp only [receive, h]

end MeshTrace.Maps
