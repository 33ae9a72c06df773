import MeshTrace.PathCache
import MeshTrace.Proofs.Header.Passes
import MeshTrace.Proofs.Propagation
import MeshTrace.Thrift

/-!
# Maps without limits

A table with limited room and one with room for everything hold the same entries as long as
no new key is refused.  `Maps.unbounded` forgets the limits of all tables.  Whatever is done
to the maps, forgetting the limits before or after makes no difference, provided that there
is room for one more entry where a new key may come:

* the passes over a header block write only to the cursor of a peer that has one
  (`unbounded_search`), so they need no room;
* a propagation may note a new name (`unbounded_propagate`), a call is numbered
  (`unbounded_correlate`), and a received path is cached (`unbounded_receive`).
-/

namespace MeshTrace

namespace Table

variable {κ : Type} [Ord κ] {α : Type}

/-- The table with room for everything. -/
def unbounded (table : Table κ α) : Table κ α :=
  { table with capacity := none }

variable [Std.TransOrd κ]

/-- What is not refused is stored alike with and without a limit. -/
theorem insert_unbounded {table : Table κ α} {key : κ} (value : α)
    (h : table.contains key ∨ table.isFull = false) :
    table.unbounded.insert key value = (table.insert key value).unbounded := by
  have hroom : table.unbounded.isFull = false := rfl
  have hput : table.insert key value = table.put key value := by
    rcases h with hcontains | hfull
    · exact insert_of_contains _ _ _ hcontains
    · exact insert_of_not_isFull _ _ _ hfull
  rw [insert_of_not_isFull _ _ _ hroom, hput]
  rfl

end Table

namespace Maps

/-- The maps with room for everything. -/
def unbounded (maps : Maps) : Maps :=
  { maps with
    cursors := maps.cursors.unbounded
    paths := maps.paths.unbounded
    correlations := maps.correlations.unbounded }

variable {maps : Maps}

/-- A pass stores a cursor only for a peer that has one, and that takes no room. -/
theorem unbounded_withCursor {run : Option UInt8 → Scan × Option UInt8}
    (hrun : ∀ cursor, (run cursor).2.isSome = cursor.isSome) (peer : UInt32) :
    maps.unbounded.withCursor peer run =
      ((maps.withCursor peer run).1, (maps.withCursor peer run).2.unbounded) := by
  have hget : maps.unbounded.cursors.get? peer = maps.cursors.get? peer := rfl
  have hsome := hrun (maps.cursors.get? peer)
  rw [withCursor, withCursor, hget]
  generalize run (maps.cursors.get? peer) = ended at hsome ⊢
  obtain ⟨result, _ | cursor⟩ := ended
  · rfl
  · have hcontains : maps.cursors.contains peer := by
      rw [Table.contains_eq_isSome_get?, ← hsome]
      rfl
    have hinsert := Table.insert_unbounded cursor (Or.inl hcontains)
    simp only [unbounded, hinsert]

theorem unbounded_locate (peer : UInt32) (bytes : List UInt8) :
    maps.unbounded.locate peer bytes =
      ((maps.locate peer bytes).1, (maps.locate peer bytes).2.unbounded) :=
  unbounded_withCursor (Header.isSome_locate bytes) peer

theorem unbounded_resume (maps : Maps) (peer : UInt32) (bytes : List UInt8) :
    maps.unbounded.resume peer bytes =
      ((maps.resume peer bytes).1, (maps.resume peer bytes).2.unbounded) :=
  unbounded_withCursor (fun cursor => Header.isSome_resume bytes cursor maps.args.load?) peer

/-- Both passes find the same without limits. -/
theorem unbounded_search (peer : UInt32) (bytes : List UInt8) :
    maps.unbounded.search peer bytes =
      ((maps.search peer bytes).1, (maps.search peer bytes).2.unbounded) := by
  rw [search, search, unbounded_locate]
  generalize maps.locate peer bytes = ended
  obtain ⟨result, passed⟩ := ended
  cases result with
  | pass | found => rfl
  | exhausted rest => exact unbounded_resume (passed.saveContinuation rest) peer bytes

/-- Passes add no cursors, so there is as much room for another one as before. -/
theorem isFull_cursors_search (h : maps.cursors.isFull = false) (peer : UInt32)
    (bytes : List UInt8) : (maps.search peer bytes).2.cursors.isFull = false := by
  have hlocate : (maps.locate peer bytes).2.cursors.isFull = false :=
    (isFull_withCursor (Header.isSome_locate bytes) maps peer).trans h
  rw [search]
  generalize maps.locate peer bytes = ended at hlocate ⊢
  obtain ⟨result, passed⟩ := ended
  cases result with
  | pass | found => exact hlocate
  | exhausted rest =>
      have hresume := isFull_withCursor
        (fun cursor => Header.isSome_resume bytes cursor (passed.saveContinuation rest).args.load?)
        (passed.saveContinuation rest) peer
      exact hresume.trans hlocate

/-- A cursor that there is room for is set alike without limits. -/
theorem unbounded_trackNewName (h : maps.cursors.isFull = false) (peer : UInt32) (lead : UInt8) :
    Propagation.trackNewName maps.unbounded peer lead =
      (Propagation.trackNewName maps peer lead).unbounded := by
  have hinsert := Table.insert_unbounded Header.dynamicTableBase
    (Or.inr h : maps.cursors.contains peer ∨ maps.cursors.isFull = false)
  unfold Propagation.trackNewName
  split
  · simp only [unbounded, hinsert]
  · rfl

/-- A frame is put in front of a message alike without limits. -/
theorem unbounded_send (msg : Message) (rawId : List UInt8) (service : UInt8) :
    Propagation.send maps.unbounded msg rawId service =
      let ended := Propagation.send maps msg rawId service
      (ended.1, ended.2.1, ended.2.2.unbounded) := by
  have hpath : ∀ traceId, Propagation.nextPath maps.unbounded service traceId =
      Propagation.nextPath maps service traceId := fun _ => rfl
  simp only [Propagation.send, hpath]
  split <;> rfl

/-- A propagation with room for a cursor is the same without limits. -/
theorem unbounded_propagate (h : maps.cursors.isFull = false) (peer : UInt32) (msg : Message) :
    maps.unbounded.propagate peer msg =
      let ended := maps.propagate peer msg
      (ended.1, ended.2.1, ended.2.2.unbounded) := by
  have hheader : Propagation.header? maps.unbounded msg.addressable =
      Propagation.header? maps msg.addressable := rfl
  rw [propagate, propagate, hheader]
  cases Propagation.header? maps msg.addressable with
  | none => rfl
  | some header =>
      obtain ⟨offset, lead⟩ := header
      have hservice : (Propagation.trackNewName maps peer lead).unbounded.service =
          (Propagation.trackNewName maps peer lead).service := rfl
      dsimp only
      rw [unbounded_trackNewName h, hservice]
      split
      · exact unbounded_send msg _ _
      · rfl

/-- A request id that there is room for is recorded alike without limits. -/
theorem unbounded_correlate (h : maps.correlations.isFull = false) (bytes : List UInt8) :
    maps.unbounded.correlate bytes =
      ((maps.correlate bytes).1, (maps.correlate bytes).2.unbounded) := by
  have hcounter : maps.unbounded.counter = maps.counter := rfl
  rw [correlate, correlate, hcounter]
  cases Thrift.requestId? bytes with
  | none => rfl
  | some requestId =>
      cases maps.counter.get? with
      | none => rfl
      | some sequence =>
          have hinsert := Table.insert_unbounded requestId
            (Or.inr h : maps.correlations.contains sequence ∨ maps.correlations.isFull = false)
          simp only [unbounded, hinsert]

/-- A path that there is room for is cached alike without limits. -/
theorem unbounded_cachePath (h : maps.paths.isFull = false) (traceId : UInt64) (path : Path) :
    maps.unbounded.cachePath traceId path =
      ((maps.cachePath traceId path).1, (maps.cachePath traceId path).2.unbounded) := by
  have hring : maps.unbounded.ring = maps.ring := rfl
  have hinsert : maps.unbounded.paths.insert traceId path =
      (maps.paths.insert traceId path).unbounded :=
    Table.insert_unbounded path (Or.inr h)
  rw [cachePath, cachePath, hring, hinsert]
  cases maps.ring.head.get? with
  | none => rfl
  | some head =>
      cases maps.ring.tail.get? with
      | none => rfl
      | some tail =>
          dsimp only
          generalize maps.ring.push head tail traceId = pushed
          obtain ⟨_ | oldest, ring⟩ := pushed <;> rfl

/-- A message whose path there is room for is received alike without limits. -/
theorem unbounded_receive (h : maps.paths.isFull = false) (bytes : List UInt8) :
    maps.unbounded.receive bytes =
      ((maps.receive bytes).1, (maps.receive bytes).2.unbounded) := by
  rw [receive, receive]
  cases Context.read? bytes with
  | none => rfl
  | some frame =>
      dsimp only
      rw [unbounded_cachePath h]

end Maps

end MeshTrace
