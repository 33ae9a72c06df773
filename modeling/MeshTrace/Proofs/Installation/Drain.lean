import MeshTrace.Installation.Maps
import MeshTrace.Proofs.Procedure

/-!
# What a drain does

A drain that can read its map to the end gives all entries and takes them out of the map,
all but those that cannot be removed (`execute_drain`).  Other maps stay as they are, and
beside the map and the observed events nothing of the system changes.  No other drain
succeeds, so what a drain gives depends on its map alone (`drain_eq_ok_iff`).
-/

namespace MeshTrace

/-! A map under a name -/

/-- The first entry with a name counts. -/
theorem named?_cons {α : Type} (entry : String × α) (rest : List (String × α)) (name : String) :
    named? (entry :: rest) name = if entry.1 = name then some entry.2 else named? rest name := by
  by_cases h : entry.1 = name <;> simp [named?, h]

/-- What is replaced is found, if there was something to replace. -/
theorem named?_replaceNamed {α : Type} {entries : List (String × α)} {name : String} {old : α}
    (h : named? entries name = some old) (value : α) :
    named? (replaceNamed entries name value) name = some value := by
  induction entries with
  | nil => cases h
  | cons entry rest ih =>
      rw [replaceNamed, List.map_cons, named?_cons]
      by_cases hname : entry.1 = name
      · simp [hname]
      · rw [named?_cons, if_neg hname] at h
        have hrest := ih h
        simpa [replaceNamed, hname] using hrest

/-- What has another name is found as before. -/
theorem named?_replaceNamed_of_ne {α : Type} {name other : String} (h : name ≠ other)
    (entries : List (String × α)) (value : α) :
    named? (replaceNamed entries name value) other = named? entries other := by
  induction entries with
  | nil => rfl
  | cons entry rest ih =>
      rw [replaceNamed] at ih ⊢
      rw [List.map_cons, named?_cons, named?_cons, ih]
      by_cases hname : entry.1 = name
      · subst hname
        simp [h]
      · simp [hname]

/-- The second of two replacements stays. -/
theorem replaceNamed_replaceNamed {α : Type} (entries : List (String × α)) (name : String)
    (first second : α) :
    replaceNamed (replaceNamed entries name first) name second =
      replaceNamed entries name second := by
  simp only [replaceNamed, List.map_map]
  apply List.map_congr_left
  intro entry _
  by_cases hname : entry.1 = name <;> simp [hname]

namespace Object

/-- A map that was replaced is found under its name. -/
theorem map?_withMap {object : Object} {name : String} {old : ObjectMap}
    (h : object.map? name = some old) (map : ObjectMap) :
    (object.withMap name map).map? name = some map :=
  named?_replaceNamed h map

@[simp] theorem withMap_withMap (object : Object) (name : String) (first second : ObjectMap) :
    (object.withMap name first).withMap name second = object.withMap name second := by
  simp only [withMap, replaceNamed_replaceNamed]

end Object

namespace HashTable

variable {α : Type} {table : HashTable α}

/-- The map without those of some keys that can be removed. -/
def without (table : HashTable α) (keys : List UInt64) : HashTable α :=
  { table with
    entries := table.entries.filter fun entry =>
      table.lasting.contains entry.1 || !keys.contains entry.1 }

/-- Where every one of the keys stays for good or was not there, nothing changes. -/
theorem without_eq_self {keys : List UInt64}
    (h : ∀ entry ∈ table.entries, entry.1 ∈ keys → entry.1 ∈ table.lasting) :
    table.without keys = table := by
  have hall : (table.entries.filter fun entry =>
      table.lasting.contains entry.1 || !keys.contains entry.1) = table.entries := by
    refine List.filter_eq_self.mpr fun entry hentry => ?_
    by_cases hkey : entry.1 ∈ keys
    · simp [h entry hentry hkey]
    · simp [hkey]
  rw [without, hall]

/-- Keys can be taken out in two goes. -/
theorem without_without (table : HashTable α) (keys more : List UInt64) :
    (table.without keys).without more = table.without (keys ++ more) := by
  simp only [without, List.filter_filter]
  congr 1
  apply List.filter_congr
  intro entry _
  cases table.lasting.contains entry.1 <;> simp [Bool.and_comm]

/-- A key is removed, or it stays for good or was not there. -/
theorem remove_eq (table : HashTable α) (key : UInt64) :
    table.remove key = .ok (table.without [key]) ∨
      table.remove key = .error .delete ∧ table.without [key] = table := by
  by_cases hlasting : key ∈ table.lasting
  · right
    refine ⟨by simp [remove, hlasting], without_eq_self fun entry _ hkey => ?_⟩
    rwa [List.mem_singleton.mp hkey]
  · by_cases hpresent : table.entries.any (·.1 == key)
    · left
      have hfilter : (table.entries.filter fun entry =>
          table.lasting.contains entry.1 || !(List.contains [key] entry.1)) =
            table.entries.filter (·.1 != key) := by
        apply List.filter_congr
        intro entry _
        by_cases hkey : entry.1 = key <;> simp [hkey, hlasting, bne]
      rw [remove, without, hfilter, hpresent]
      simp [hlasting]
    · right
      refine ⟨by simp only [remove, hpresent]; simp, without_eq_self fun entry hentry hkey => ?_⟩
      refine absurd (List.any_eq_true.mpr ⟨entry, hentry, ?_⟩) hpresent
      simpa using hkey

end HashTable

/-- A map that can be used as one of request ids is one, with keys and values of the right
size. -/
theorem ObjectMap.eq_numbers_of_asNumbers {map : ObjectMap} {view : HashTable UInt64}
    (h : map.asNumbers = .ok view) :
    map = .numbers view ∧ view.checkSizes wordSize wordSize = .ok () := by
  cases map with
  | numbers table =>
      obtain ⟨⟨⟩, hsizes, h⟩ := of_bind_eq_ok h
      cases h
      exact ⟨rfl, hsizes⟩
  | paths table =>
      obtain ⟨_, -, h⟩ := of_bind_eq_ok h
      cases h
  | _ => cases h

/-- A map of numbers with entries of the right sizes can be read as one. -/
theorem ObjectMap.asNumbers_numbers {view : HashTable UInt64}
    (h : view.checkSizes wordSize wordSize = .ok ()) : (numbers view).asNumbers = .ok view := by
  rw [asNumbers, h]
  rfl

/-- The object has `view` as its map of request ids, and a drain can read it to the end. -/
structure Object.Drainable (object : Object) (view : HashTable UInt64) : Prop where
  isMap : object.map? MapName.correlations = some (.numbers view)
  sizes : view.checkSizes ObjectMap.wordSize ObjectMap.wordSize = .ok ()
  readable : view.failingWalks.contains view.walks = false

/-- What a drain gives that reads the map to the end. -/
def HashTable.listing (view : HashTable UInt64) : List Correlation :=
  view.arrive.entries.map fun entry => ⟨entry.1, entry.2⟩

namespace Installation

open Procedure

/-- Removing drained keys never fails: it takes out what can be taken out and reports events. -/
theorem execute_removeDrained (table : HashTable UInt64) (keys : List UInt64) (system : System) :
    ∃ events, (removeDrained table keys).execute system =
      (.ok (table.without keys), { system with events }) := by
  induction keys generalizing table system with
  | nil =>
      have hkept : table.without [] = table :=
        HashTable.without_eq_self fun _ _ hkey => nomatch hkey
      exact ⟨system.events, by rw [removeDrained, execute_pure, hkept]⟩
  | cons key rest ih =>
      have hsplit : table.without (key :: rest) = (table.without [key]).without rest :=
        (table.without_without [key] rest).symm
      rw [removeDrained, hsplit]
      rcases table.remove_eq key with hremove | ⟨hremove, hkept⟩
      · rw [hremove]
        dsimp only
        rw [execute_bind, effect, execute_observe]
        exact ih _ _
      · rw [hremove, hkept]
        dsimp only
        rw [execute_bind, debug, log, execute_observe]
        exact ih _ _

/-- **A drain that reads to the end gives every entry and removes what it can.** -/
theorem execute_drain {system : System} {view : HashTable UInt64}
    (hmap : system.object.map? MapName.correlations = some (.numbers view))
    (hsizes : view.checkSizes ObjectMap.wordSize ObjectMap.wordSize = .ok ())
    (hwalk : view.failingWalks.contains view.walks = false) :
    ∃ events, drain.execute system =
      (.ok (view.arrive.entries.map fun entry => ⟨entry.1, entry.2⟩),
        { system with
          object := system.object.withMap MapName.correlations
            (.numbers (view.arrive.without (view.arrive.entries.map (·.1))))
          events }) := by
  have hread : view.walk = (.ok view.arrive.entries, view.arrive) := by
    rw [HashTable.walk, hwalk]
    rfl
  obtain ⟨events, hremove⟩ := execute_removeDrained view.arrive (view.arrive.entries.map (·.1))
    { system with object := system.object.withMap MapName.correlations (.numbers view.arrive) }
  refine ⟨events, ?_⟩
  simp only [drain, execute_bind, execute_map, hmap, ObjectMap.asNumbers_numbers hsizes,
    execute_check_ok, hread, execute_putMap, hremove, execute_pure, Object.withMap_withMap]

/-- A drain that succeeds could read the map. -/
theorem drainable_of_drain_ok {system after : System} {batch : List Correlation}
    (h : drain.execute system = (.ok batch, after)) : ∃ view, system.object.Drainable view := by
  obtain ⟨found, _, hmap, hrest⟩ := execute_bind_ok h
  obtain ⟨view, _, hview, hrest⟩ := execute_bind_ok hrest
  obtain ⟨_, _, -, hrest⟩ := execute_bind_ok hrest
  obtain ⟨entries, _, hread, -⟩ := execute_bind_ok hrest
  obtain ⟨rfl, hsizes⟩ := ObjectMap.eq_numbers_of_asNumbers (check_ok hview).1
  have hwalk := (check_ok hread).1
  refine ⟨view, (map_ok hmap).1, hsizes, ?_⟩
  split at hwalk
  · cases hwalk
  · next hreadable => simpa using hreadable

/-- **What a drain gives depends on its map alone.** -/
theorem drain_eq_ok_iff {system : System} {batch : List Correlation} :
    (drain.execute system).1 = .ok batch ↔
      ∃ view, system.object.Drainable view ∧ batch = view.listing := by
  constructor
  · intro h
    obtain ⟨view, hview⟩ := drainable_of_drain_ok (Prod.ext h rfl)
    obtain ⟨events, hdrain⟩ := execute_drain hview.isMap hview.sizes hview.readable
    rw [hdrain] at h
    exact ⟨view, hview, (Except.ok.inj h).symm⟩
  · rintro ⟨view, hview, rfl⟩
    obtain ⟨events, hdrain⟩ := execute_drain hview.isMap hview.sizes hview.readable
    rw [hdrain]
    rfl

end Installation

end MeshTrace
