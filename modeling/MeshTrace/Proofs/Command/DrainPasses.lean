import MeshTrace.Proofs.Command.Drains
import MeshTrace.Proofs.Installation.Entries

/-!
# Passes over the map of request ids

A drain reads the map to its end and only then removes what it read.  So a pass is all or
nothing: if one entry cannot be read, whichever it is, none is removed; else every entry is
given once, and those stay whose removal fails (`drain_gives_all_or_nothing`).

What a pass removed comes up again only if it is recorded anew.  `LaterPass` goes from one
pass to the next, where nothing gets into the map but what the programs record, and
`LaterPass.left_or_recorded` is what all these passes keep.  The drains of a run are such passes
(`Command.laterPass_beforeDrain`).
-/

namespace MeshTrace

/-- **Collecting readings** gives all of them, or the first error among them. -/
theorem mapM_id_cases {ε α : Type} (readings : List (Except ε α)) :
    (∃ entries : List α, readings = entries.map .ok ∧ readings.mapM id = .ok entries) ∨
      ∃ (entries : List α) (error : ε) (rest : List (Except ε α)),
        readings = entries.map .ok ++ .error error :: rest ∧ readings.mapM id = .error error := by
  induction readings with
  | nil => exact Or.inl ⟨[], rfl, rfl⟩
  | cons reading readings ih =>
      rw [List.mapM_cons]
      cases reading with
      | error error => exact Or.inr ⟨[], error, readings, rfl, rfl⟩
      | ok entry =>
          rcases ih with ⟨entries, rfl, hall⟩ | ⟨entries, error, rest, rfl, hfirst⟩
          · exact Or.inl ⟨entry :: entries, rfl, by rw [hall]; rfl⟩
          · exact Or.inr ⟨entry :: entries, error, rest, rfl, by rw [hfirst]; rfl⟩

namespace Object

variable {object : Object} {table : HashTable UInt64}

/-- The entries in the map of request ids. -/
def held (object : Object) : List (UInt64 × UInt64) :=
  (object.correlations?.map (·.entries)).getD []

/-- What the programs record before the next pass over the map of request ids. -/
def arriving (object : Object) : List (UInt64 × UInt64) :=
  (object.correlations?.map (·.arriving.headD [])).getD []

theorem correlations?_of_map? (h : object.map? MapName.correlations = some (.numbers table)) :
    object.correlations? = some table := by
  rw [correlations?, h]

theorem held_of_map? (h : object.map? MapName.correlations = some (.numbers table)) :
    object.held = table.entries := by
  rw [held, correlations?_of_map? h]
  rfl

theorem arriving_of_map? (h : object.map? MapName.correlations = some (.numbers table)) :
    object.arriving = table.arriving.headD [] := by
  rw [arriving, correlations?_of_map? h]
  rfl

/-- The map that is put in the place of another one has its own entries. -/
theorem held_withMap {old : ObjectMap} (h : object.map? MapName.correlations = some old)
    (table : HashTable UInt64) :
    (object.withMap MapName.correlations (.numbers table)).held = table.entries :=
  held_of_map? (map?_withMap h _)

/-- A pass finds what is held or arrives. -/
theorem mem_held_or_arriving (h : object.map? MapName.correlations = some (.numbers table))
    {entry : UInt64 × UInt64} (hentry : entry ∈ table.arrive.entries) :
    entry ∈ object.held ∨ entry ∈ object.arriving := by
  rw [held_of_map? h, arriving_of_map? h]
  exact HashTable.mem_recordAll hentry

end Object

namespace Installation

open Procedure

/-- What is seen of the removal of a key: it is done, or noted as not done. -/
def removalEvent (key : UInt64) : Bool → Event
  | true => .done (.keyRemoved MapName.correlations key)
  | false => .logged
      ⟨.debug, .installation, s!"Correlation {key} already gone: {MapError.delete.text}"⟩

/-- **The removals one by one.**  Each key is removed or noted, in turn. -/
theorem events_removeDrained (table : HashTable UInt64) {keys : List UInt64} (h : keys.Nodup)
    (system : System) :
    ((removeDrained table keys).execute system).2.events.toList =
      system.events.toList ++ keys.map fun key => removalEvent key (table.remove key).isOk := by
  induction keys generalizing table system with
  | nil => exact (List.append_nil _).symm
  | cons key rest ih =>
      obtain ⟨hkey, hrest⟩ := List.nodup_cons.mp h
      -- No later key is this one, so they can be removed as before.
      have hothers : (rest.map fun other =>
          removalEvent other ((table.without [key]).remove other).isOk) =
            rest.map fun other => removalEvent other (table.remove other).isOk := by
        refine List.map_congr_left fun other hother => ?_
        rw [HashTable.isOk_remove_without (ne_of_mem_of_not_mem hother hkey)]
      rw [removeDrained, List.map_cons, ← hothers, List.append_cons]
      rcases table.remove_eq key with hremove | ⟨hremove, hkept⟩
      · rw [hremove]
        dsimp only
        rw [execute_bind, effect, execute_observe]
        refine (ih _ hrest _).trans ?_
        rw [Array.toList_push]
        rfl
      · rw [hremove, hkept]
        dsimp only
        rw [execute_bind, debug, log, execute_observe]
        refine (ih _ hrest _).trans ?_
        rw [Array.toList_push]
        rfl

/-- **A pass that cannot read to the end** fails, and has removed nothing by then. -/
theorem execute_drain_of_unreadable {system : System} {view : HashTable UInt64}
    (hmap : system.object.map? MapName.correlations = some (.numbers view))
    (hsizes : view.checkSizes ObjectMap.wordSize ObjectMap.wordSize = .ok ())
    {error : MapError} (hwalk : view.walk.1 = .error error) :
    drain.execute system =
      (.error (.readMap MapName.correlations error),
        { system with
          object := system.object.withMap MapName.correlations (.numbers view.arrive) }) := by
  have hread : view.walk = (.error error, view.arrive) := Prod.ext hwalk rfl
  simp only [drain, execute_bind, execute_map, hmap, ObjectMap.asNumbers_numbers hsizes,
    execute_check_ok, hread, execute_putMap]
  rfl

/-- What is seen of a pass that reads to the end: each entry's key is removed or noted. -/
theorem events_drain {system : System} {view : HashTable UInt64}
    (hmap : system.object.map? MapName.correlations = some (.numbers view))
    (hsizes : view.checkSizes ObjectMap.wordSize ObjectMap.wordSize = .ok ())
    (hkeyed : view.Keyed) (hwalk : view.walk.1 = .ok view.arrive.entries) :
    (drain.execute system).2.events.toList =
      system.events.toList ++ view.arrive.entries.map fun entry =>
        removalEvent entry.1 (view.arrive.remove entry.1).isOk := by
  have hread : view.walk = (.ok view.arrive.entries, view.arrive) := Prod.ext hwalk rfl
  let walked : System :=
    { system with object := system.object.withMap MapName.correlations (.numbers view.arrive) }
  have hevents := events_removeDrained view.arrive hkeyed.arrive walked
  obtain ⟨events, hremove⟩ :=
    execute_removeDrained view.arrive (view.arrive.entries.map (·.1)) walked
  rw [hremove, List.map_map] at hevents
  simp only [drain, execute_bind, execute_map, hmap, ObjectMap.asNumbers_numbers hsizes,
    execute_check_ok, hread, execute_putMap, hremove, execute_pure, walked]
  exact hevents

/-- What a pass comes to.  The map cannot be used, or it cannot be read to the end, or it was
drained. -/
inductive Passed (system : System) : Except Failure (List Correlation) × System → Prop
  | unusable (failure : Failure) : Passed system (.error failure, system)
  | unread {view : HashTable UInt64} {failure : Failure}
      (isMap : system.object.map? MapName.correlations = some (.numbers view)) :
      Passed system (.error failure,
        { system with
          object := system.object.withMap MapName.correlations (.numbers view.arrive) })
  | drained {view : HashTable UInt64} {events : Array Event}
      (isMap : system.object.map? MapName.correlations = some (.numbers view)) :
      Passed system (.ok view.listing,
        { system with
          object := system.object.withMap MapName.correlations
            (.numbers (view.arrive.without (view.arrive.entries.map (·.1))))
          events })

/-- **Every pass is `Passed`.** -/
theorem drain_passed (system : System) : Passed system (drain.execute system) := by
  cases hmap : system.object.map? MapName.correlations with
  | none =>
      simp only [drain, execute_bind, execute_map, hmap]
      exact .unusable _
  | some map =>
      cases hview : map.asNumbers with
      | error error =>
          simp only [drain, execute_bind, execute_map, hmap, hview]
          exact .unusable _
      | ok view =>
          obtain ⟨rfl, hsizes⟩ := ObjectMap.eq_numbers_of_asNumbers hview
          cases hwalk : view.failingWalks.contains view.walks with
          | true =>
              have hread : view.walk.1 = .error .walk := by rw [HashTable.walk, hwalk]; rfl
              rw [execute_drain_of_unreadable hmap hsizes hread]
              exact .unread hmap
          | false =>
              obtain ⟨events, hdrain⟩ := execute_drain hmap hsizes hwalk
              rw [hdrain]
              exact .drained hmap

/-- Whatever a pass comes to, nothing is in the map afterwards but what was there before or
arrived. -/
theorem held_or_arriving_of_held_after {system : System} {entry : UInt64 × UInt64}
    (h : entry ∈ (drain.execute system).2.object.held) :
    entry ∈ system.object.held ∨ entry ∈ system.object.arriving := by
  have hpassed := drain_passed system
  generalize drain.execute system = ending at hpassed h
  cases hpassed with
  | unusable _ => exact Or.inl h
  | unread hmap =>
      rw [Object.held_withMap hmap] at h
      exact Object.mem_held_or_arriving hmap h
  | drained hmap =>
      rw [Object.held_withMap hmap] at h
      exact Object.mem_held_or_arriving hmap (List.mem_filter.mp h).1

/-- A pass gives nothing but what was in the map before or arrived. -/
theorem Delivers.held_or_arriving {system : System} {c : Correlation} (h : Delivers system c) :
    (c.sequence, c.requestId) ∈ system.object.held ∨
      (c.sequence, c.requestId) ∈ system.object.arriving := by
  obtain ⟨batch, hbatch, hc⟩ := h
  obtain ⟨view, hview, rfl⟩ := drain_eq_ok_iff.mp hbatch
  obtain ⟨entry, hentry, rfl⟩ := List.mem_map.mp hc
  exact Object.mem_held_or_arriving hview.isMap hentry

/-- A system that a later pass finds.  From the end of one pass to the next nothing gets into
the map; what the programs record shows as the next pass begins, and `recorded` is all of it
since the first pass. -/
inductive LaterPass (system : System) :
    (recorded : List (UInt64 × UInt64)) → (later : System) → Prop
  | next {later : System} (kept : later.object.held ⊆ (drain.execute system).2.object.held) :
      LaterPass system later.object.arriving later
  | further {recorded : List (UInt64 × UInt64)} {between later : System}
      (earlier : LaterPass system recorded between)
      (kept : later.object.held ⊆ (drain.execute between).2.object.held) :
      LaterPass system (recorded ++ later.object.arriving) later

/-- **All passes keep this:** what a later pass finds was left by the first one or recorded
since. -/
theorem LaterPass.left_or_recorded {system later : System} {recorded : List (UInt64 × UInt64)}
    (h : LaterPass system recorded later) {entry : UInt64 × UInt64}
    (hentry : entry ∈ later.object.held ∨ entry ∈ later.object.arriving) :
    entry ∈ (drain.execute system).2.object.held ∨ entry ∈ recorded := by
  induction h with
  | next kept =>
      rcases hentry with hheld | harriving
      · exact Or.inl (kept hheld)
      · exact Or.inr harriving
  | further _ kept ih =>
      rcases hentry with hheld | harriving
      · rcases ih (held_or_arriving_of_held_after (kept hheld)) with hleft | hrecorded
        · exact Or.inl hleft
        · exact Or.inr (List.mem_append_left _ hrecorded)
      · exact Or.inr (List.mem_append_right _ harriving)

/-- What the first pass took out is given again only if it is recorded anew. -/
theorem LaterPass.recorded_of_delivers {system later : System}
    {recorded : List (UInt64 × UInt64)} (h : LaterPass system recorded later) {c : Correlation}
    (hgone : (c.sequence, c.requestId) ∉ (drain.execute system).2.object.held)
    (hdelivers : Delivers later c) : (c.sequence, c.requestId) ∈ recorded :=
  (h.left_or_recorded hdelivers.held_or_arriving).resolve_left hgone

end Installation

namespace Command

open Installation

variable {started : System}

/-- Between two drains of a run the object stays as it is. -/
theorem object_beforeDrain_succ {n : Nat} (h : ∀ k ≤ n, Drains (beforeDrain started k)) :
    (beforeDrain started (n + 1)).object =
      (drain.execute (beforeDrain started n)).2.object := by
  obtain ⟨earlier, hearlier⟩ := collect_ok_of_drains fun k hk => h k (Nat.le_of_lt hk)
  obtain ⟨batch, hbatch⟩ := h n (Nat.le_refl n)
  obtain ⟨events, hlast⟩ := execute_drainOnce earlier (Prod.ext hbatch rfl :
    drain.execute (beforeDrain started n) = (.ok batch, (drain.execute (beforeDrain started n)).2))
  have hall : beforeDrain started (n + 1) =
      { (drain.execute (beforeDrain started n)).2 with events } := by
    rw [beforeDrain, collect_succ, Procedure.execute_bind, hearlier]
    exact congrArg Prod.snd hlast
  rw [hall]

/-- What the programs record before the drains of a run from number `first` on, `count` of
them. -/
def recordedBefore (started : System) (first count : Nat) : List (UInt64 × UInt64) :=
  (List.range' first count).flatMap fun k => (beforeDrain started k).object.arriving

/-- One drain more adds what arrives before it. -/
theorem recordedBefore_succ (started : System) (first count : Nat) :
    recordedBefore started first (count + 1) =
      recordedBefore started first count ++
        (beforeDrain started (first + count)).object.arriving := by
  simp only [recordedBefore, List.range'_1_concat, List.flatMap_append, List.flatMap_singleton]

/-- **The drains of a run are passes.** -/
theorem laterPass_beforeDrain {i count : Nat}
    (h : ∀ k ≤ i + count, Drains (beforeDrain started k)) :
    LaterPass (beforeDrain started i) (recordedBefore started (i + 1) (count + 1))
      (beforeDrain started (i + 1 + count)) := by
  induction count with
  | zero =>
      have hkept := object_beforeDrain_succ h
      rw [recordedBefore_succ]
      exact .next (hkept ▸ List.Subset.refl _)
  | succ count ih =>
      have hkept : (beforeDrain started (i + 1 + (count + 1))).object =
          (drain.execute (beforeDrain started (i + 1 + count))).2.object :=
        object_beforeDrain_succ fun k hk => h k (by simp only [Nat.add_eq] at hk; omega)
      rw [recordedBefore_succ]
      exact .further (ih fun k hk => h k (by omega)) (hkept ▸ List.Subset.refl _)

/-- What a drain of a run takes out of the map is given by a later drain only if the programs
record it anew. -/
theorem recorded_of_delivers_again {i count : Nat} {c : Correlation}
    (h : ∀ k ≤ i + count, Drains (beforeDrain started k))
    (hgone : (c.sequence, c.requestId) ∉ (drain.execute (beforeDrain started i)).2.object.held)
    (hagain : Delivers (beforeDrain started (i + 1 + count)) c) :
    (c.sequence, c.requestId) ∈ recordedBefore started (i + 1) (count + 1) :=
  (laterPass_beforeDrain h).recorded_of_delivers hgone hagain

end Command

namespace Installation

open Procedure

/-- A pass gives every entry of the map once, as the pass finds it.  Those whose removal fails
are left in the map, in their order, and nothing else is; each other one is gone.  What is seen
of the pass is the removal of each key, or a note that it failed.  Whatever passes follow, an
entry that was removed is given again only if it was recorded anew. -/
structure GivesAll (system : System) (view : HashTable UInt64) (batch : List Correlation) :
    Prop where
  succeeds : (drain.execute system).1 = .ok batch
  once : (batch.map (·.sequence)).Nodup
  every : ∀ c : Correlation, c ∈ batch ↔ (c.sequence, c.requestId) ∈ view.arrive.entries
  left : (drain.execute system).2.object.held =
    view.arrive.entries.filter fun entry => !(view.arrive.remove entry.1).isOk
  gone : ∀ entry ∈ view.arrive.entries, (view.arrive.remove entry.1).isOk →
    ∀ other ∈ (drain.execute system).2.object.held, other.1 ≠ entry.1
  kept : ∀ entry ∈ view.arrive.entries, ¬(view.arrive.remove entry.1).isOk →
    entry ∈ (drain.execute system).2.object.held
  seen : (drain.execute system).2.events.toList =
    system.events.toList ++ view.arrive.entries.map fun entry =>
      removalEvent entry.1 (view.arrive.remove entry.1).isOk
  again : ∀ c ∈ batch, (view.arrive.remove c.sequence).isOk → ∀ recorded later,
    LaterPass system recorded later → Delivers later c → (c.sequence, c.requestId) ∈ recorded

/-- A pass that can read to the end gives all. -/
theorem givesAll_listing {system : System} {view : HashTable UInt64}
    (hmap : system.object.map? MapName.correlations = some (.numbers view))
    (hsizes : view.checkSizes ObjectMap.wordSize ObjectMap.wordSize = .ok ())
    (hkeyed : view.Keyed) (hreadable : view.failingWalks.contains view.walks = false) :
    GivesAll system view view.listing := by
  obtain ⟨events, hdrain⟩ := execute_drain hmap hsizes hreadable
  have hevery : ∀ c : Correlation,
      c ∈ view.listing ↔ (c.sequence, c.requestId) ∈ view.arrive.entries := by
    intro c
    rw [HashTable.listing, List.mem_map]
    constructor
    · rintro ⟨entry, hentry, rfl⟩
      exact hentry
    · intro hentry
      exact ⟨_, hentry, rfl⟩
  have hleft : (drain.execute system).2.object.held =
      view.arrive.entries.filter fun entry => !(view.arrive.remove entry.1).isOk := by
    rw [hdrain, ← HashTable.entries_without_all]
    exact Object.held_withMap hmap _
  have hgone : ∀ entry ∈ view.arrive.entries, (view.arrive.remove entry.1).isOk →
      ∀ other ∈ (drain.execute system).2.object.held, other.1 ≠ entry.1 := by
    intro entry _ hremoved other hother hsame
    rw [hleft] at hother
    have hfailed := (List.mem_filter.mp hother).2
    rw [hsame, hremoved] at hfailed
    cases hfailed
  refine ⟨congrArg Prod.fst hdrain, ?_, hevery, hleft, hgone, ?_, ?_, ?_⟩
  · have hkeys : view.listing.map (·.sequence) = view.arrive.entries.map (·.1) := by
      rw [HashTable.listing, List.map_map]
      rfl
    rw [hkeys]
    exact hkeyed.arrive
  · intro entry hentry hfailed
    rw [hleft]
    exact List.mem_filter.mpr ⟨hentry, by simpa using hfailed⟩
  · refine events_drain hmap hsizes hkeyed ?_
    rw [HashTable.walk, hreadable]
    rfl
  · intro c hc hremoved recorded later hlater hdelivers
    refine hlater.recorded_of_delivers (fun hheld => ?_) hdelivers
    exact hgone _ ((hevery c).mp hc) hremoved _ hheld rfl

end Installation

open Installation

/-- **A drain gives all or nothing.**  Let the system have a map of request ids, with any
entries under keys of their own, and let a walk over it make the given readings.  If one of
them is an error, at whatever place, the drain fails with the first error that was read, and it
leaves the system as it was, with the map as the walk found it.  If none is, the drain gives all
entries, and leaves those that cannot be removed (`GivesAll`).  Either way the entries left have
keys of their own. -/
theorem drain_gives_all_or_nothing {system : System} {view : HashTable UInt64}
    {readings : List (Except MapError (UInt64 × UInt64))}
    (hmap : system.object.map? MapName.correlations = some (.numbers view))
    (hsizes : view.checkSizes ObjectMap.wordSize ObjectMap.wordSize = .ok ())
    (hkeyed : view.Keyed) (hreadings : readings.mapM id = view.walk.1) :
    ((∃ error, .error error ∈ readings) →
      let (outcome, after) := drain.execute system
      (∃ (entries : List (UInt64 × UInt64)) (error : MapError) (rest : _),
        readings = entries.map .ok ++ .error error :: rest ∧
        outcome = .error (.readMap MapName.correlations error)) ∧
      after = { system with
        object := system.object.withMap MapName.correlations (.numbers view.arrive) } ∧
      after.object.held = view.arrive.entries) ∧
    ((∀ error, .error error ∉ readings) → ∃ batch, GivesAll system view batch) ∧
    ((drain.execute system).2.object.held.map (·.1)).Nodup := by
  rcases mapM_id_cases readings with ⟨entries, rfl, hall⟩ | ⟨entries, error, rest, rfl, hfirst⟩
  · have hunread : ∀ error : MapError, .error error ∉ entries.map Except.ok := by simp
    have hreadable : view.failingWalks.contains view.walks = false := by
      have hwalk := hreadings.symm.trans hall
      unfold HashTable.walk at hwalk
      split at hwalk
      · cases hwalk
      · rename_i hreadable
        exact Bool.not_eq_true _ |>.mp hreadable
    have hgives := givesAll_listing hmap hsizes hkeyed hreadable
    refine ⟨fun ⟨error, herror⟩ => absurd herror (hunread error), fun _ => ⟨_, hgives⟩, ?_⟩
    rw [hgives.left]
    exact hkeyed.arrive.sublist (List.filter_sublist.map _)
  · have hdrain := execute_drain_of_unreadable hmap hsizes (hreadings.symm.trans hfirst)
    have hheld : (drain.execute system).2.object.held = view.arrive.entries := by
      rw [hdrain]
      exact Object.held_withMap hmap _
    refine ⟨fun _ => ?_, fun hread => absurd (by simp) (hread error), ?_⟩
    · rw [hdrain] at hheld ⊢
      exact ⟨⟨entries, error, rest, rfl, rfl⟩, rfl, hheld⟩
    · rw [hheld]
      exact hkeyed.arrive

/-- Two request ids are in the map, of which the second cannot be removed, and a third one comes
with the first walk.  The first one is recorded anew before the next pass, which gives it again.
The third walk ends in an error. -/
theorem drain_gives_all_or_nothing_threePasses :
    let view : HashTable UInt64 :=
      { keySize := 8, valueSize := 8, entries := [(1, 10), (2, 20)]
        arriving := [[(3, 30)], [(1, 10)]], failingWalks := [2], lasting := [2] }
    let system : System := { object := { maps := [(MapName.correlations, .numbers view)] } }
    let next := (drain.execute system).2
    let last := (drain.execute next).2
    GivesAll system view [⟨1, 10⟩, ⟨2, 20⟩, ⟨3, 30⟩] ∧ next.object.held = [(2, 20)] ∧
      Delivers next ⟨1, 10⟩ ∧ (1, 10) ∈ next.object.arriving ∧
      (drain.execute last).1 = .error (.readMap MapName.correlations .walk) ∧
      (drain.execute last).2.object.held = [(2, 20)] := by
  intro view system next last
  have hreadings : [.ok (1, 10), .ok (2, 20), .ok (3, 30)].mapM id = view.walk.1 := rfl
  have hkeyed : view.Keyed := by unfold HashTable.Keyed; decide
  obtain ⟨batch, hgives⟩ :=
    (@drain_gives_all_or_nothing system view _ rfl rfl hkeyed hreadings).2.1 (by simp)
  have hlisting : batch = [⟨1, 10⟩, ⟨2, 20⟩, ⟨3, 30⟩] :=
    Except.ok.inj (hgives.succeeds.symm.trans rfl)
  subst hlisting
  have hagain : Delivers next ⟨1, 10⟩ := ⟨[⟨2, 20⟩, ⟨1, 10⟩], rfl, by simp⟩
  have hrecorded : (1, 10) ∈ next.object.arriving :=
    hgives.again ⟨1, 10⟩ (by simp) rfl _ next (.next (List.Subset.refl _)) hagain
  -- The map as the third walk finds it, which reads one entry and then fails.
  let left : HashTable UInt64 := { view with entries := [(2, 20)], arriving := [], walks := 2 }
  have hleft : left.Keyed := by unfold HashTable.Keyed; decide
  have hfailing : [.ok (2, 20), .error .walk].mapM id = left.walk.1 := rfl
  obtain ⟨-, -, hheld⟩ :=
    (@drain_gives_all_or_nothing last left _ rfl rfl hleft hfailing).1 ⟨.walk, by simp⟩
  exact ⟨hgives, hgives.left.trans rfl, hagain, hrecorded, rfl, hheld.trans rfl⟩

end MeshTrace
