import MeshTrace.Proofs.Frame.Context
import MeshTrace.Proofs.PathCache.History

/-!
# A received path goes out once

A service passes a received path on in the next message of its trace, and in no other
one.  As long as fewer paths were received than the eviction ring has slots, nothing is
driven out of it, and the log alone tells what goes out: a message of a trace carries
the path that is due to the trace, with the service as its newest hop, or a path that
starts at the service if none is due (`injected_carries_latest_received`).

A path stops being due when it goes out (`NextPath.eq_single_of_used`), and a message that
goes out without a frame leaves the cache as it was.
-/

namespace MeshTrace

open CacheEvent

/-- Before the ring is full a record is found exactly if it is due. -/
theorem Remembers.found_iff_latest {service : Service} (h : Remembers service)
    (hfew : (listed service.log).length < ringSize) {traceId : UInt64} {path : Path} :
    service.maps.paths.get? traceId = some path ↔
      ∃ earlier, Latest service.log traceId path earlier := by
  rw [h.found]
  constructor
  · rintro ⟨earlier, hlatest, -⟩
    exact ⟨earlier, hlatest⟩
  · rintro ⟨earlier, hlatest⟩
    exact ⟨earlier, hlatest, Ring.spares_of_length_lt hfew _ _⟩

namespace Service

/-- A step leaves the service its id. -/
theorem service_step (service : Service) (s : ServiceStep) :
    (service.step s).maps.service = service.maps.service := by
  have hstep := service.step_stepped s
  generalize service.step s = after at hstep
  cases hstep with
  | kept _ _ hservice => exact hservice
  | cached traceId path => exact Maps.service_cachePath _ _ _
  | used _ _ _ hservice => exact hservice

/-- A history does not write the id of the service. -/
theorem service_run (service : Service) (history : List ServiceStep) :
    (service.run history).maps.service = service.maps.service := by
  induction history generalizing service with
  | nil => rfl
  | cons s rest ih => exact (ih (service.step s)).trans (service.service_step s)

end Service

/-- The path that the next message of a trace carries: the one that is due to the trace,
with `id` as its newest hop, or one that starts at `id`. -/
def NextPath (log : List CacheEvent) (id : UInt8) (traceId : UInt64) (path : Path) : Prop :=
  (∃ latest earlier, Latest log traceId latest earlier ∧ path = latest.extend id) ∨
    ((∀ latest earlier, ¬ Latest log traceId latest earlier) ∧ path = .single id)

/-- **A path that went out does not go out again.**  Until another path is received for the
trace, its messages start anew. -/
theorem NextPath.eq_single_of_used {log later : List CacheEvent} {id : UInt8}
    {traceId : UInt64} {path : Path}
    (h : NextPath (log ++ .used traceId :: later) id traceId path)
    (hunreceived : ∀ received, .cached traceId received ∉ later) : path = .single id := by
  have hnone : ∀ latest earlier,
      ¬ Latest (log ++ .used traceId :: later) traceId latest earlier := by
    clear h
    intro latest earlier
    induction later using List.reverseRecOn with
    | nil =>
        intro hlatest
        rcases latest_append_iff.mp hlatest with ⟨hevent, -⟩ | ⟨hother, -⟩
        · cases hevent
        · exact hother rfl
    | append_singleton later event ih =>
        rw [← List.cons_append, ← List.append_assoc]
        intro hlatest
        rcases latest_append_iff.mp hlatest with ⟨rfl, -⟩ | ⟨-, hold⟩
        · exact hunreceived latest (by simp)
        · exact ih (fun received hmem => hunreceived received (by simp [hmem])) hold
  rcases h with ⟨latest, earlier, hlatest, -⟩ | ⟨-, hpath⟩
  · exact absurd hlatest (hnone latest earlier)
  · exact hpath

/-- Before the ring is full, the path that a propagation takes from the cache is the one
that the log tells. -/
theorem Remembers.nextPath {service : Service} (h : Remembers service)
    (hfew : (listed service.log).length < ringSize) (id : UInt8) (traceId : UInt64) :
    NextPath service.log id traceId (Propagation.nextPath service.maps id traceId) := by
  rcases Propagation.nextPath_cases service.maps id traceId with
    ⟨hnone, hnext⟩ | ⟨cached, hfound, hnext⟩
  · refine Or.inr ⟨fun latest earlier hlatest => ?_, hnext⟩
    rw [(h.found_iff_latest hfew).mpr ⟨earlier, hlatest⟩] at hnone
    cases hnone
  · obtain ⟨earlier, hlatest⟩ := (h.found_iff_latest hfew).mp hfound
    exact Or.inl ⟨cached, earlier, hlatest, hnext⟩

/-- What the log tells about the end of a propagation.  A frame that went in front of the
message carries the trace's next path, and the hop count that is reported is the frame's.
Where none went in front, all records stay. -/
structure GoesOut (service : Service) (id : UInt8) (msg : Message)
    (ending : Propagation × Message × Maps) : Prop where
  carried : ∀ traceId hops, ending.1 = .injected traceId hops →
    ∃ rawId path, Propagation.traceIdOf rawId = traceId ∧
      ending.2.1.bytes = Context.frame rawId path ++ msg.bytes ∧
      Context.read? ending.2.1.bytes = some (traceId, path) ∧
      Bytes.byte? ending.2.1.bytes Context.pathOffset = some hops ∧
      NextPath service.log id traceId path
  kept : (∀ traceId hops, ending.1 ≠ .injected traceId hops) →
    ending.2.2.paths = service.maps.paths ∧ ending.2.2.ring = service.maps.ring

/-- **Each received path goes out once.**  Let a service start with an empty cache, and
send a message on after any history with fewer received paths than the ring has slots.  If
a frame goes in front of the message, its path is the one received last for its trace, with
the service as newest hop, unless no path was received since the trace's last message; then
the path starts at the service.  If no frame goes in front, all records stay. -/
theorem injected_carries_latest_received (id : UInt8) {capacity : Option Nat}
    (hroom : ∀ room, capacity = some room → ringSize ≤ room) {history : List ServiceStep}
    (hfew : (ServiceStep.received history).length < ringSize) (args : ArgSlots) (peer : UInt32)
    (msg : Message) :
    let service := (Service.start id capacity).run history
    GoesOut service id msg ({ service.maps with args }.propagate peer msg) := by
  intro service
  have h : Remembers service := (Remembers.start id hroom).run history
  have hlisted : (listed service.log).length < ringSize := by
    have hpushed : listed service.log = (ServiceStep.received history).map (·.1) :=
      (Service.listed_run _ history).trans (List.nil_append _)
    rwa [hpushed, List.length_map]
  have hid : service.maps.service.get? = some id :=
    congrArg Cell.get? (Service.service_run (.start id capacity) history)
  have hends := Maps.propagate_propagated { service.maps with args } peer msg
  generalize Maps.propagate { service.maps with args } peer msg = sent at hends
  cases hends with
  | unread => exact ⟨nofun, fun _ => ⟨rfl, rfl⟩⟩
  | stopped | aborted =>
      exact ⟨nofun, fun _ =>
        ⟨Propagation.paths_trackNewName _ _ _, Propagation.ring_trackNewName _ _ _⟩⟩
  | @injected offset lead rawId sender sent reads _ hbytes =>
      refine ⟨?_, fun hother => absurd rfl (hother _ _)⟩
      rintro _ _ ⟨⟩
      have hrawId := Bytes.length_of_slice? reads.rawId
      obtain rfl : id = sender := Option.some.inj (hid.symm.trans reads.service)
      refine ⟨rawId, _, rfl, hbytes, ?_, ?_, h.nextPath hlisted id _⟩
      · rw [hbytes]
        exact reads.read?_nextFrame msg.bytes
      · rw [hbytes]
        exact Context.byte?_pathOffset _ _ hrawId

/-- A message with a tracing header of eight bytes, that starts at offset 9. -/
def tracedMessage : Message :=
  .ofBytes (Frame.encode Frame.headersType (Field.tracing [1, 2, 3, 4, 5, 6, 7, 8]).encode)

/-- A service has received a path of one hop for the trace of `tracedMessage`.  The message
goes out with both hops. -/
theorem injected_carries_latest_received_relayed :
    let history := [.receive (Context.frame [1, 2, 3, 4, 5, 6, 7, 8] (.single 3))]
    let service := (Service.start 9 (some ringSize)).run history
    let sent := { service.maps with args := ⟨.holding 9, {}⟩ }.propagate 5 tracedMessage
    (ServiceStep.received history).length < ringSize ∧
      sent.1 = .injected 0x0102030405060708 2 ∧
      Context.read? sent.2.1.bytes = some (0x0102030405060708, (Path.single 3).extend 9) := by
  intro history service sent
  have hroom : ∀ room, some ringSize = some room → ringSize ≤ room := by simp
  have hfew : (ServiceStep.received history).length < ringSize := by decide +kernel
  have hinjected : sent.1 = .injected 0x0102030405060708 2 := by decide +kernel
  have hlog : service.log = [.cached 0x0102030405060708 (.single 3)] := by decide +kernel
  have hlatest : Latest service.log 0x0102030405060708 (.single 3) [] := by
    rw [hlog]
    exact ⟨[], rfl, by simp⟩
  have hout : GoesOut service 9 tracedMessage sent :=
    injected_carries_latest_received 9 hroom hfew ⟨.holding 9, {}⟩ 5 tracedMessage
  obtain ⟨-, path, -, -, hread, -, ⟨latest, earlier, hdue, rfl⟩ | ⟨hnone, -⟩⟩ :=
    hout.carried _ _ hinjected
  · obtain ⟨rfl, -⟩ := hlatest.unique hdue
    exact ⟨hfew, hinjected, hread⟩
  · exact absurd hlatest (hnone _ _)

end MeshTrace
