import MeshTrace.Proofs.Frame.RoundTrip
import MeshTrace.Proofs.Path
import MeshTrace.Proofs.PathCache.Lookup
import MeshTrace.Proofs.Program.Run
import MeshTrace.Proofs.Report.Snapshot

/-!
# How many hops a path counts

Paths are bounded where they go out: one that is started or extended counts between one hop
and `maxHops`, so whenever a program puts a frame in front of a message, the path in it keeps
the bound (`Kernel.keepsBound_endings`).  Where paths come in they are stored as they are.  So
the store holds nothing that was not received under the same trace id (`get?_paths_run`), and
it keeps the bound as long as the frames that come in keep it (`stored_paths_were_received`).

A frame that breaks the bound is stored too.  If it counts more hops than a record has slots,
a report gives a count that no listed path has (`crowded_path_is_stored`).
-/

namespace MeshTrace

open Propagation

/-- Every path that is sent along keeps the bound. -/
theorem Propagation.canonical_nextPath (maps : Maps) (service : UInt8) (traceId : UInt64) :
    (nextPath maps service traceId).Canonical := by
  rcases nextPath_cases maps service traceId with ⟨-, hsingle⟩ | ⟨cached, -, hextended⟩
  · rw [hsingle]
    exact Path.canonical_single service
  · rw [hextended]
    exact Path.canonical_extend cached service

/-! Paths that go out -/

namespace Kernel

/-- The message that a run is for and how the run ends, if it is for an outbound message. -/
def ending? (kernel : Kernel) : Invocation → Option (Message × MessageRun)
  | .locator peer msg => some (msg, kernel.locateHeader peer msg)
  | .extendedLocator peer msg => some (msg, kernel.locateExtended peer msg)
  | .propagator peer msg => some (msg, kernel.propagatePath peer msg)
  | .callLocator msg => some (msg, kernel.correlateCall msg)
  | _ => none

/-- How the runs of a history for outbound messages end, in order. -/
def endings (kernel : Kernel) : List Invocation → List (Message × MessageRun)
  | [] => []
  | next :: rest => (kernel.ending? next).toList ++ (kernel.invoke next).endings rest

/-- The message goes out with a context frame in front whose path counts at most 99 hops, and
the log tells that count; or no frame goes in front, and the log tells of none.  A message
that was made longer for a frame in vain is as it came, if it can be made shorter again. -/
def KeepsBound (msg : Message) (ended : MessageRun) : Prop :=
  (∃ rawId path, rawId.length = Context.traceIdSize ∧ path.count.toNat ≤ 99 ∧
      ended.msg.bytes = Context.frame rawId path ++ msg.bytes ∧
      ended.records = [.propagated (traceIdOf rawId) path.count]) ∨
    ((msg.canShrink → ended.msg.bytes = msg.bytes) ∧
      ∀ traceId hops, .propagated traceId hops ∉ ended.records)

variable {kernel : Kernel} {peer : UInt32} {msg : Message}

/-- The propagator keeps the bound: the path in a frame is started or extended for it. -/
theorem keepsBound_propagatePath (kernel : Kernel) (peer : UInt32) (msg : Message) :
    KeepsBound msg (kernel.propagatePath peer msg) := by
  have hends := kernel.maps.propagate_propagated peer msg
  unfold propagatePath
  generalize kernel.maps.propagate peer msg = ending at hends
  cases hends with
  | unread => exact Or.inr ⟨fun _ => rfl, by simp⟩
  | stopped header => exact Or.inr ⟨fun _ => rfl, by simp⟩
  | aborted reads hroom hbytes => exact Or.inr ⟨hbytes, by simp⟩
  | injected reads hroom hbytes =>
      exact Or.inl ⟨_, _, Bytes.length_of_slice? reads.rawId, (canonical_nextPath _ _ _).le,
        hbytes, rfl⟩

/-- A locator sends no path but what the propagator sends. -/
theorem Located.keepsBound {ended : MessageRun} (h : Located kernel peer msg ended) :
    KeepsBound msg ended := by
  cases h with
  | passed args cursors records hrecords => exact Or.inr ⟨fun _ => rfl, hrecords⟩
  | propagated args cursors => exact keepsBound_propagatePath _ peer msg

/-- The call locator sends no path. -/
theorem keepsBound_correlateCall (kernel : Kernel) (msg : Message) :
    KeepsBound msg (kernel.correlateCall msg) :=
  Or.inr ⟨fun _ => rfl, not_mem_records_correlateCall⟩

/-- **One run of a program** keeps the bound. -/
theorem keepsBound_ending {next : Invocation} {sending : Message × MessageRun}
    (h : kernel.ending? next = some sending) : KeepsBound sending.1 sending.2 := by
  cases next with
  | locator peer msg => cases h; exact (locateHeader_located kernel peer msg).keepsBound
  | extendedLocator peer msg =>
      cases h
      exact (locateExtended_located kernel peer msg).keepsBound
  | propagator peer msg => cases h; exact keepsBound_propagatePath kernel peer msg
  | callLocator msg => cases h; exact keepsBound_correlateCall kernel msg
  | registrar event => cases h
  | streamParser inbound => cases h
  | streamVerdict inbound => cases h

/-- **A history of runs** keeps the bound, whatever it began with and received. -/
theorem keepsBound_endings (kernel : Kernel) (history : List Invocation) :
    ∀ sending ∈ kernel.endings history, KeepsBound sending.1 sending.2 := by
  induction history generalizing kernel with
  | nil =>
      intro sending hsending
      rw [endings] at hsending
      cases hsending
  | cons next rest ih =>
      intro sending hsending
      rw [endings, List.mem_append, Option.mem_toList] at hsending
      rcases hsending with hnext | hlater
      · exact keepsBound_ending hnext
      · exact ih (kernel.invoke next) sending hlater

end Kernel

/-! Paths that are stored -/

namespace Kernel

variable {kernel : Kernel} {traceId : UInt64} {path : Path}

/-- **One run of a program** stores no record but the one that it received. -/
theorem get?_paths_invoke {next : Invocation}
    (h : (kernel.invoke next).maps.paths.get? traceId = some path) :
    next.received? = some (traceId, path) ∨ kernel.maps.paths.get? traceId = some path := by
  cases hreceived : next.received? with
  | none =>
      have hkept : CacheKept kernel.maps (kernel.invoke next).maps := invoke_cache hreceived
      obtain ⟨-, hsame | ⟨used, herase⟩⟩ := hkept
      · rw [hsame] at h
        exact Or.inr h
      · rw [herase] at h
        exact Or.inr (Table.get?_of_get?_erase h).2
  | some frame =>
      obtain ⟨receivedId, receivedPath⟩ := frame
      rw [invoke_cachePath hreceived] at h
      rcases Maps.get?_cachePath_cases h with ⟨rfl, rfl⟩ | hold
      · exact Or.inl rfl
      · exact Or.inr hold

/-- **A history of runs** stores no record but those that it received. -/
theorem get?_paths_run {history : List Invocation}
    (h : (kernel.run history).maps.paths.get? traceId = some path) :
    (traceId, path) ∈ Invocation.received history ∨
      kernel.maps.paths.get? traceId = some path := by
  induction history generalizing kernel with
  | nil => exact Or.inr h
  | cons next rest ih =>
      have hreceived : ∀ frame ∈ Invocation.received rest,
          frame ∈ Invocation.received (next :: rest) := by
        intro frame hframe
        obtain ⟨later, hlater, hread⟩ := List.mem_filterMap.mp hframe
        exact List.mem_filterMap.mpr ⟨later, List.mem_cons_of_mem _ hlater, hread⟩
      rcases ih h with hlater | hold
      · exact Or.inl (hreceived _ hlater)
      · rcases get?_paths_invoke hold with hnext | hbefore
        · exact Or.inl (List.mem_filterMap.mpr ⟨next, List.mem_cons_self, hnext⟩)
        · exact Or.inr hbefore

end Kernel

/-- **Stored paths are received paths.**  Whatever programs run, from a state without stored
paths on: each stored path came in a context frame under its trace id.  Whenever a frame goes
in front of a message, its path counts at most 99 hops, and so does the record of it in the
log.  So if the frames that came in count at most 99 hops, each stored path does.  A snapshot
of the store, in whatever order it takes the records, reports as its largest count the length
of its longest list of hops, 0 if there is none, exactly if no stored path counts more hops
than a record has slots. -/
theorem stored_paths_were_received {kernel : Kernel}
    (hempty : ∀ traceId, kernel.maps.paths.get? traceId = none) (history : List Invocation) :
    let paths := (kernel.run history).maps.paths
    (∀ traceId path, paths.get? traceId = some path →
        (traceId, path) ∈ Invocation.received history) ∧
      (∀ sending ∈ kernel.endings history, Kernel.KeepsBound sending.1 sending.2) ∧
      ((∀ frame ∈ Invocation.received history, frame.2.count.toNat ≤ 99) →
        ∀ traceId path, paths.get? traceId = some path → path.count.toNat ≤ 99) ∧
      ∀ head tail entries, entries.Perm paths.toList →
        let stats := PathCacheStats.ofSnapshot head tail entries
        (stats.maxHops.toNat = stats.longest ↔
          ∀ traceId path, paths.get? traceId = some path → path.count.toNat ≤ pathSlots) := by
  intro paths
  have hreceived : ∀ traceId path, paths.get? traceId = some path →
      (traceId, path) ∈ Invocation.received history := by
    intro traceId path hstored
    rcases Kernel.get?_paths_run hstored with hcame | hbefore
    · exact hcame
    · rw [hempty] at hbefore
      cases hbefore
  refine ⟨hreceived, kernel.keepsBound_endings history, ?_, ?_⟩
  · intro hbound traceId path hstored
    exact hbound _ (hreceived traceId path hstored)
  · intro head tail entries hperm stats
    have hentry : ∀ entry, entry ∈ entries ↔ paths.get? entry.1 = some entry.2 := by
      intro entry
      rw [hperm.mem_iff]
      exact Table.mem_toList
    rw [PathCacheStats.maxHops_eq_longest_iff]
    constructor
    · intro hslots traceId path hstored
      exact hslots (traceId, path) ((hentry (traceId, path)).mpr hstored)
    · intro hslots entry hmem
      exact hslots entry.1 entry.2 ((hentry entry).mp hmem)

/-- Two paths come in.  One goes out in front of a message, with a hop more; the other one is
stored and reported. -/
theorem stored_paths_were_received_twoPaths :
    let kernel := Kernel.loaded 4 JumpTarget.all
    let history : List Invocation :=
      [.streamVerdict { bytes := Context.frame [0, 0, 0, 0, 0, 0, 0, 9] (.single 7) },
        .streamVerdict
          { bytes := Context.frame [0, 0, 0, 0, 0, 0, 0, 8] ((Path.single 7).extend 3) },
        .locator 5 (.ofBytes (Frame.encode Frame.headersType
          (Field.tracing [0, 0, 0, 0, 0, 0, 0, 9]).encode))]
    let paths := (kernel.run history).maps.paths
    let stats := PathCacheStats.ofSnapshot 0 2 paths.toList
    (∀ traceId, kernel.maps.paths.get? traceId = none) ∧
      Invocation.received history = [(9, .single 7), (8, (Path.single 7).extend 3)] ∧
      (∀ traceId path, paths.get? traceId = some path → path.count.toNat ≤ 99) ∧
      (∃ sending ∈ kernel.endings history,
        sending.2.records = [.propagated 9 2] ∧ Kernel.KeepsBound sending.1 sending.2) ∧
      stats.maxHops = 2 ∧ stats.longest = 2 := by
  intro kernel history paths stats
  have hempty : ∀ traceId, kernel.maps.paths.get? traceId = none := Table.get?_empty _
  have hreceived : Invocation.received history =
      [(9, .single 7), (8, (Path.single 7).extend 3)] := by decide +kernel
  obtain ⟨-, hsent, hbound, hreported⟩ := stored_paths_were_received hempty history
  have hstored : ∀ traceId path, paths.get? traceId = some path → path.count.toNat ≤ 99 := by
    refine hbound ?_
    rw [hreceived]
    decide +kernel
  have hmax : stats.maxHops = 2 := by decide +kernel
  have hlongest : stats.maxHops.toNat = stats.longest := by
    refine (hreported 0 2 _ (List.Perm.refl _)).mpr fun traceId path hpath => ?_
    exact Nat.le_trans (hstored traceId path hpath) (by decide)
  have hpropagated : ∀ sending ∈ (kernel.endings history).head?,
      sending.2.records = [.propagated 9 2] := by decide +kernel
  have hnonempty : (kernel.endings history).head?.isSome := by decide +kernel
  obtain ⟨sending, hsending⟩ := Option.isSome_iff_exists.mp hnonempty
  have hmem : sending ∈ kernel.endings history := List.mem_of_head? hsending
  refine ⟨hempty, hreceived, hstored,
    ⟨sending, hmem, hpropagated sending hsending, hsent sending hmem⟩, hmax, ?_⟩
  rw [← hlongest, hmax]
  rfl

/-- **A path beyond the bound is stored.**  A context frame comes in whose record counts 200
hops.  It is stored with that count, and the report gives 200 as the largest count, while the
only list of hops has 100. -/
theorem crowded_path_is_stored :
    let frame := Context.frame [0, 0, 0, 0, 0, 0, 0, 9] Context.crowded
    let reached := (Kernel.loaded 4 JumpTarget.all).run [.streamVerdict { bytes := frame }]
    let stats := PathCacheStats.ofSnapshot 0 1 reached.maps.paths.toList
    reached.maps.paths.get? 9 = some Context.crowded ∧ ¬Context.crowded.count.toNat ≤ 99 ∧
      stats.maxHops = 200 ∧ stats.longest = 100 := by
  intro frame reached stats
  have hlist : reached.maps.paths.toList = [(9, Context.crowded)] := by decide +kernel
  refine ⟨by decide +kernel, by decide, ?_, ?_⟩
  · simp only [stats, hlist]
    rfl
  · simp only [stats, hlist, PathCacheStats.longest, PathCacheStats.ofSnapshot,
      PathCacheStats.sorted, List.mergeSort_singleton]
    rfl

end MeshTrace
