import MeshTrace.Proofs.Program.Run
import MeshTrace.Proofs.Window

/-!
# When a cursor moves back

A peer's cursor is moved in two places.  A pass over a header block moves it on past new
names, and never back (`Maps.moved_withCursor`).  The propagator sets it to the first dynamic
index when the tracing header comes with its name spelled out, since a name that enters the
dynamic table anew stands first in it, wherever the older entry stands by then.

So a cursor that is there stays there, and it moves back only in runs that end with a
propagator that takes such a field (`cursor_falls_only_by_seeding`).
-/

namespace MeshTrace

open Header Propagation

/-- One cursor is there if the other one is. -/
theorem Header.NotAhead.isSome_eq {first second : Option UInt8} (h : NotAhead first second) :
    second.isSome = first.isSome := by
  cases h <;> rfl

theorem Header.notAhead_scan (bytes : List UInt8) (cursor : Option UInt8)
    (start : Continuation) : NotAhead cursor (scan bytes cursor start).2 := by
  rw [scan_eq]
  exact notAhead_fields _ _ _ _ _

theorem Header.notAhead_locate (bytes : List UInt8) (cursor : Option UInt8) :
    NotAhead cursor (locate bytes cursor).2 := by
  unfold locate
  cases Frame.firstWord? Frame.headersType bytes with
  | none => exact .refl cursor
  | some word => exact notAhead_scan bytes cursor _

theorem Header.notAhead_resume (bytes : List UInt8) (cursor : Option UInt8)
    (start : Option Continuation) : NotAhead cursor (resume bytes cursor start).2 := by
  cases start with
  | none => exact .refl cursor
  | some start =>
      rw [resume_some_eq]
      exact notAhead_fields _ _ _ _ _

namespace Maps

/-- The cursor of a peer, if it has one. -/
def cursor? (maps : Maps) (peer : UInt32) : Option UInt8 :=
  maps.cursors.get? peer

/-- There is a cursor for the peer, or room for one. -/
def CanSeed (maps : Maps) (peer : UInt32) : Prop :=
  maps.cursors.contains peer ∨ maps.cursors.isFull = false

/-- The leading byte of the field that the propagator takes for the tracing header. -/
def taken? (maps : Maps) (msg : Message) : Option UInt8 :=
  (header? maps msg.addressable).map Prod.snd

/-- What a program that runs for `peer` leaves of the cursors.  `taken` is the leading byte of
the field that the propagator took, if it got to take one.  With a name spelled out it sets
the peer's cursor to the first dynamic index, and else that cursor is not moved back. -/
structure Moved (before : Maps) (peer : UInt32) (taken : Option UInt8) (after : Maps) :
    Prop where
  kept : taken.any namesItself = false → NotAhead (before.cursor? peer) (after.cursor? peer)
  seeded : taken.any namesItself → before.CanSeed peer →
    after.cursor? peer = some dynamicTableBase
  others : ∀ other, other ≠ peer → after.cursor? other = before.cursor? other
  canSeed : before.CanSeed peer → after.CanSeed peer

variable {before between after : Maps} {peer : UInt32} {taken : Option UInt8}

/-- Where a cursor is, it can be set. -/
theorem canSeed_of_isSome (h : (before.cursor? peer).isSome) : before.CanSeed peer := by
  refine Or.inl ?_
  rwa [Table.contains_eq_isSome_get?]

/-- What leaves all maps alone moves no cursor and takes no field. -/
theorem Moved.refl (maps : Maps) (peer : UInt32) : maps.Moved peer none maps where
  kept _ := .refl _
  seeded hnone := absurd hnone (by decide)
  others _ _ := rfl
  canSeed := id

/-- A pass takes no field, so what follows it decides. -/
theorem Moved.trans (h : before.Moved peer none between) (h' : between.Moved peer taken after) :
    before.Moved peer taken after where
  kept hkept := (h.kept rfl).trans (h'.kept hkept)
  seeded hseeded hroom := h'.seeded hseeded (h.canSeed hroom)
  others other hne := (h'.others other hne).trans (h.others other hne)
  canSeed hroom := h'.canSeed (h.canSeed hroom)

/-- Maps with the same cursors, and with other argument slots maybe, are as good. -/
theorem Moved.of_cursors_eq (h : before.Moved peer taken between)
    (heq : after.cursors = between.cursors) : before.Moved peer taken after where
  kept hkept := by
    rw [cursor?, cursor?, heq]
    exact h.kept hkept
  seeded hseeded hroom := by
    rw [cursor?, heq]
    exact h.seeded hseeded hroom
  others other hne := by
    rw [cursor?, heq]
    exact h.others other hne
  canSeed hroom := by
    rw [CanSeed, heq]
    exact h.canSeed hroom

/-- What a program that ran for `receiver` leaves of the cursor of any peer. -/
theorem Moved.for_peer {receiver : UInt32} (h : before.Moved receiver taken after)
    (peer : UInt32) :
    (¬(receiver = peer ∧ taken.any namesItself) →
        NotAhead (before.cursor? peer) (after.cursor? peer)) ∧
      (receiver = peer ∧ taken.any namesItself → before.CanSeed peer →
        after.cursor? peer = some dynamicTableBase) := by
  constructor
  · intro hunseeded
    by_cases hpeer : receiver = peer
    · subst hpeer
      refine h.kept (Bool.eq_false_iff.mpr fun hnames => ?_)
      exact hunseeded ⟨rfl, hnames⟩
    · rw [h.others peer (Ne.symm hpeer)]
      exact .refl _
  · rintro ⟨rfl, hnames⟩ hroom
    exact h.seeded hnames hroom

/-- A pass moves the peer's cursor on, if at all, and takes no field. -/
theorem moved_withCursor {run : Option UInt8 → Scan × Option UInt8}
    (hsome : ∀ cursor, (run cursor).2.isSome = cursor.isSome)
    (hrun : ∀ cursor, NotAhead cursor (run cursor).2) (maps : Maps) (peer : UInt32) :
    maps.Moved peer none (maps.withCursor peer run).2 where
  kept _ := by
    rw [cursor?, cursor?, get?_withCursor hsome]
    exact hrun _
  seeded hnone := absurd hnone (by decide)
  others other hne := get?_withCursor_of_ne hne
  canSeed hroom := by
    refine hroom.imp (fun hcontains => ?_) (fun hfree => ?_)
    · rw [Table.contains_eq_isSome_get?, get?_withCursor hsome, hsome,
        ← Table.contains_eq_isSome_get?]
      exact hcontains
    · rwa [isFull_withCursor hsome]

theorem moved_locate (maps : Maps) (peer : UInt32) (bytes : List UInt8) :
    maps.Moved peer none (maps.locate peer bytes).2 :=
  moved_withCursor (isSome_locate bytes) (notAhead_locate bytes) maps peer

theorem moved_resume (maps : Maps) (peer : UInt32) (bytes : List UInt8) :
    maps.Moved peer none (maps.resume peer bytes).2 :=
  moved_withCursor (isSome_resume bytes · _) (notAhead_resume bytes · _) maps peer

/-- A name that is spelled out seeds the cursor, and another leading byte leaves it. -/
theorem moved_trackNewName (maps : Maps) (peer : UInt32) (lead : UInt8) :
    maps.Moved peer (some lead) (trackNewName maps peer lead) := by
  cases hname : namesItself lead with
  | false =>
      have hsame : trackNewName maps peer lead = maps := by rw [trackNewName, hname]; rfl
      rw [hsame]
      exact
        { kept := fun _ => .refl _
          seeded := fun hseeded => by rw [Option.any_some, hname] at hseeded; cases hseeded
          others := fun _ _ => rfl
          canSeed := id }
  | true =>
      have hcursors : (trackNewName maps peer lead).cursors =
          maps.cursors.insert peer dynamicTableBase := by rw [trackNewName, hname]; rfl
      have hseeded : maps.CanSeed peer →
          (trackNewName maps peer lead).cursor? peer = some dynamicTableBase := by
        intro hroom
        rw [cursor?, hcursors]
        exact Table.get?_insert_self _ hroom
      exact
        { kept := fun hkept => by rw [Option.any_some, hname] at hkept; cases hkept
          seeded := fun _ => hseeded
          others := fun other hne => by
            rw [cursor?, hcursors]
            exact Table.get?_insert_of_ne _ _ hne
          canSeed := fun hroom => canSeed_of_isSome (by rw [hseeded hroom]; rfl) }

/-- Of the cursors a propagation changes only what noting a new name changes. -/
theorem cursors_propagate (maps : Maps) (peer : UInt32) (msg : Message) {offset : Nat}
    {lead : UInt8} (h : header? maps msg.addressable = some (offset, lead)) :
    (maps.propagate peer msg).2.2.cursors = (trackNewName maps peer lead).cursors := by
  have hsend : ∀ rawId service,
      (send (trackNewName maps peer lead) msg rawId service).2.2.cursors =
        (trackNewName maps peer lead).cursors := by
    intro rawId service
    unfold send
    dsimp only
    split <;> rfl
  unfold propagate
  rw [h]
  dsimp only
  split
  · exact hsend _ _
  · rfl

/-- A propagation seeds the cursor exactly if it takes a field that spells its name out. -/
theorem moved_propagate (maps : Maps) (peer : UInt32) (msg : Message) :
    maps.Moved peer (maps.taken? msg) (maps.propagate peer msg).2.2 := by
  cases hheader : header? maps msg.addressable with
  | none =>
      have hsame : (maps.propagate peer msg).2.2 = maps := by rw [propagate, hheader]
      rw [hsame, taken?, hheader]
      exact .refl maps peer
  | some header =>
      obtain ⟨offset, lead⟩ := header
      have htracked := maps.moved_trackNewName peer lead
      rw [taken?, hheader]
      exact htracked.of_cursors_eq (maps.cursors_propagate peer msg hheader)

end Maps

namespace Kernel

/-- What the propagator takes after a pass that ended so. -/
def takenAfter? (kernel : Kernel) (msg : Message) : Scan × Maps → Option UInt8
  | (.found offset, maps) =>
    if .propagator ∈ kernel.targets then (maps.saveFound offset).taken? msg else none
  | _ => none

/-- What the propagator takes after the second pass. -/
def takenExtended? (kernel : Kernel) (peer : UInt32) (msg : Message) : Option UInt8 :=
  kernel.takenAfter? msg (kernel.maps.resume peer msg.addressable)

/-- What the propagator takes after the first pass, and after the second one if the first
runs out. -/
def takenLocated? (kernel : Kernel) (peer : UInt32) (msg : Message) : Option UInt8 :=
  match kernel.maps.locate peer msg.addressable with
  | (.exhausted rest, maps) =>
    if .extendedLocator ∈ kernel.targets then
      { kernel with maps := maps.saveContinuation rest }.takenExtended? peer msg
    else none
  | ended => kernel.takenAfter? msg ended

/-- In the course of a run the propagator takes a field for `peer` that spells its name
out. -/
def Seeds (kernel : Kernel) (peer : UInt32) : Invocation → Prop
  | .locator receiver msg =>
    receiver = peer ∧ (kernel.takenLocated? receiver msg).any namesItself
  | .extendedLocator receiver msg =>
    receiver = peer ∧ (kernel.takenExtended? receiver msg).any namesItself
  | .propagator receiver msg => receiver = peer ∧ (kernel.maps.taken? msg).any namesItself
  | .registrar _ | .callLocator _ | .streamParser _ | .streamVerdict _ => False

instance (kernel : Kernel) (peer : UInt32) (next : Invocation) :
    Decidable (kernel.Seeds peer next) := by
  cases next <;> unfold Seeds <;> infer_instance

/-- No run of a history seeds the cursor of `peer`. -/
def NeverSeeds (kernel : Kernel) (peer : UInt32) : List Invocation → Prop
  | [] => True
  | next :: rest => ¬kernel.Seeds peer next ∧ (kernel.invoke next).NeverSeeds peer rest

instance decidableNeverSeeds : (kernel : Kernel) → (peer : UInt32) →
    (history : List Invocation) → Decidable (kernel.NeverSeeds peer history)
  | _, _, [] => isTrue trivial
  | kernel, peer, next :: rest =>
    have := decidableNeverSeeds (kernel.invoke next) peer rest
    inferInstanceAs (Decidable (_ ∧ _))

variable {kernel : Kernel} {peer : UInt32} {msg : Message}

/-- A pass that finds the header goes on with the propagator, if that is there. -/
theorem moved_afterFound {maps : Maps} (hpassed : kernel.maps.Moved peer none maps)
    (offset : UInt32) :
    kernel.maps.Moved peer (kernel.takenAfter? msg (.found offset, maps))
      (tailCall { kernel with maps := maps.saveFound offset } msg .propagator
        fun kernel => kernel.propagatePath peer msg).kernel.maps := by
  have hslots : kernel.maps.Moved peer none (maps.saveFound offset) := hpassed.of_cursors_eq rfl
  unfold takenAfter? tailCall
  dsimp only
  by_cases htarget : .propagator ∈ kernel.targets
  · rw [if_pos htarget, if_pos htarget]
    exact hslots.trans (Maps.moved_propagate _ peer msg)
  · rw [if_neg htarget, if_neg htarget]
    exact hslots

/-- The extended locator takes the field that its pass finds, if any. -/
theorem moved_locateExtended (kernel : Kernel) (peer : UInt32) (msg : Message) :
    kernel.maps.Moved peer (kernel.takenExtended? peer msg)
      (kernel.locateExtended peer msg).kernel.maps := by
  have hpassed := kernel.maps.moved_resume peer msg.addressable
  cases hresume : kernel.maps.resume peer msg.addressable with
  | mk result maps =>
      rw [hresume] at hpassed
      rw [takenExtended?, hresume]
      cases result with
      | found offset =>
          rw [locateExtended_of_found kernel hresume]
          exact moved_afterFound hpassed offset
      | pass | exhausted rest =>
          rw [locateExtended, hresume]
          exact hpassed

/-- The locator takes the field that one of the passes finds, if any. -/
theorem moved_locateHeader (kernel : Kernel) (peer : UInt32) (msg : Message) :
    kernel.maps.Moved peer (kernel.takenLocated? peer msg)
      (kernel.locateHeader peer msg).kernel.maps := by
  have hpassed := kernel.maps.moved_locate peer msg.addressable
  cases hlocate : kernel.maps.locate peer msg.addressable with
  | mk result maps =>
      rw [hlocate] at hpassed
      rw [takenLocated?, hlocate]
      cases result with
      | pass =>
          rw [locateHeader, hlocate]
          exact hpassed
      | found offset =>
          rw [locateHeader_of_found hlocate]
          exact moved_afterFound hpassed offset
      | exhausted rest =>
          have hslots : kernel.maps.Moved peer none (maps.saveContinuation rest) :=
            hpassed.of_cursors_eq rfl
          let resumed : Kernel := { kernel with maps := maps.saveContinuation rest }
          dsimp only
          by_cases htarget : .extendedLocator ∈ kernel.targets
          · rw [if_pos htarget, locateHeader_of_exhausted hlocate htarget]
            exact hslots.trans (moved_locateExtended resumed peer msg)
          · rw [if_neg htarget, locateHeader, hlocate]
            simp only [afterScan, tailCall, if_neg htarget]
            exact hslots

/-- The call locator does not touch cursors. -/
theorem cursors_correlateCall (kernel : Kernel) (msg : Message) :
    (kernel.correlateCall msg).kernel.maps.cursors = kernel.maps.cursors := by
  show (kernel.maps.correlate msg.addressable).2.cursors = _
  unfold Maps.correlate
  cases Thrift.requestId? msg.addressable with
  | none => rfl
  | some requestId => cases kernel.maps.counter.get? <;> rfl

/-- The verdict does not touch cursors. -/
theorem cursors_cacheReceived (kernel : Kernel) (inbound : Inbound) :
    (kernel.cacheReceived inbound).2.1.maps.cursors = kernel.maps.cursors := by
  unfold cacheReceived
  split
  · rfl
  · unfold Maps.cachePath
    dsimp only
    split
    · split <;> rfl
    · rfl

/-- **One run of a program.**  It seeds a cursor, or leaves it where it was or farther on. -/
theorem cursor?_invoke (kernel : Kernel) (peer : UInt32) (next : Invocation) :
    (¬kernel.Seeds peer next →
        NotAhead (kernel.maps.cursor? peer) ((kernel.invoke next).maps.cursor? peer)) ∧
      (kernel.Seeds peer next → kernel.maps.CanSeed peer →
        (kernel.invoke next).maps.cursor? peer = some dynamicTableBase) := by
  have hidle : (kernel.invoke next).maps.cursors = kernel.maps.cursors →
      NotAhead (kernel.maps.cursor? peer) ((kernel.invoke next).maps.cursor? peer) := by
    intro hcursors
    exact ((Maps.Moved.refl kernel.maps peer).of_cursors_eq hcursors).kept rfl
  cases next with
  | locator receiver msg => exact (moved_locateHeader kernel receiver msg).for_peer peer
  | extendedLocator receiver msg => exact (moved_locateExtended kernel receiver msg).for_peer peer
  | propagator receiver msg => exact (kernel.maps.moved_propagate receiver msg).for_peer peer
  | registrar event =>
      refine ⟨fun _ => hidle ?_, False.elim⟩
      rw [invoke, maps_registerSocket]
  | callLocator msg => exact ⟨fun _ => hidle (cursors_correlateCall kernel msg), False.elim⟩
  | streamParser inbound => exact ⟨fun _ => hidle rfl, False.elim⟩
  | streamVerdict inbound =>
      exact ⟨fun _ => hidle (cursors_cacheReceived kernel inbound), False.elim⟩

/-- A cursor that is there stays there. -/
theorem isSome_cursor?_invoke (h : (kernel.maps.cursor? peer).isSome) (next : Invocation) :
    ((kernel.invoke next).maps.cursor? peer).isSome := by
  obtain ⟨hkept, hseeded⟩ := kernel.cursor?_invoke peer next
  by_cases hseeds : kernel.Seeds peer next
  · rw [hseeded hseeds (Maps.canSeed_of_isSome h)]
    rfl
  · rwa [(hkept hseeds).isSome_eq]

/-- A peer that has a cursor keeps one, whatever runs. -/
theorem isSome_cursor?_run {history : List Invocation}
    (h : (kernel.maps.cursor? peer).isSome) :
    ((kernel.run history).maps.cursor? peer).isSome := by
  induction history generalizing kernel with
  | nil => exact h
  | cons next rest ih => exact ih (isSome_cursor?_invoke h next)

/-- A history that does not seed a cursor does not move it back. -/
theorem notAhead_run {history : List Invocation} (h : kernel.NeverSeeds peer history) :
    NotAhead (kernel.maps.cursor? peer) ((kernel.run history).maps.cursor? peer) := by
  induction history generalizing kernel with
  | nil => exact .refl _
  | cons next rest ih =>
      obtain ⟨hnext, hrest⟩ := h
      exact ((kernel.cursor?_invoke peer next).1 hnext).trans (ih hrest)

end Kernel

/-- **Only seeding moves a cursor back.**  Let the programs of a service run in any order,
from any state of the maps and with any entries of the jump table.  A peer that has a cursor
keeps one.  Over a history in which the propagator takes no field for the peer that spells
its name out, the cursor is not moved back; and wherever the history has led to, the next run
does not move it back either, except that it sets it to 62 if the propagator takes such a
field. -/
theorem cursor_falls_only_by_seeding (kernel : Kernel) (history : List Invocation)
    (peer : UInt32) :
    let reached := kernel.run history
    ((kernel.maps.cursor? peer).isSome → (reached.maps.cursor? peer).isSome) ∧
      (kernel.NeverSeeds peer history →
        NotAhead (kernel.maps.cursor? peer) (reached.maps.cursor? peer)) ∧
      ∀ next cursor, reached.maps.cursor? peer = some cursor →
        ∃ moved, (reached.invoke next).maps.cursor? peer = some moved ∧
          (¬reached.Seeds peer next → cursor ≤ moved) ∧ (reached.Seeds peer next → moved = 62) := by
  intro reached
  refine ⟨Kernel.isSome_cursor?_run, Kernel.notAhead_run, ?_⟩
  intro next cursor hcursor
  have hsome : (reached.maps.cursor? peer).isSome := by rw [hcursor]; rfl
  obtain ⟨moved, hmoved⟩ := Option.isSome_iff_exists.mp
    (Kernel.isSome_cursor?_invoke hsome next)
  obtain ⟨hkept, hseeded⟩ := reached.cursor?_invoke peer next
  refine ⟨moved, hmoved, ?_, ?_⟩
  · intro hunseeded
    have hahead := hkept hunseeded
    rw [hcursor, hmoved] at hahead
    cases hahead with
    | some hle => exact hle
  · intro hseeds
    have hbase := hseeded hseeds (Maps.canSeed_of_isSome hsome)
    rw [hmoved] at hbase
    exact Option.some.inj hbase

namespace Header

/-- A message with one field, the tracing header with its name spelled out. -/
def spelledOut : Message :=
  .ofBytes (Frame.encode Frame.headersType (Field.encodeAll [.tracing [1, 2, 3, 4, 5, 6, 7, 8]]))

/-- A message with one field, a new name that is not the tracing header's. -/
def otherName : Message :=
  .ofBytes (Frame.encode Frame.headersType (Field.encodeAll [.literal [1] [2]]))

end Header

/-- Peer 5 has a cursor, then other names and a message to another peer follow, and then the
tracing header is spelled out to peer 5 again. -/
theorem cursor_falls_only_by_seeding_twoPeers :
    let kernel := (Kernel.loaded 4 JumpTarget.all).run [.locator 5 spelledOut]
    let history := [.locator 5 otherName, .locator 6 spelledOut, .locator 5 otherName]
    let reached := kernel.run history
    (kernel.maps.cursor? 5).isSome ∧ kernel.NeverSeeds 5 history ∧ ¬kernel.NeverSeeds 6 history ∧
      NotAhead (kernel.maps.cursor? 5) (reached.maps.cursor? 5) ∧
      reached.maps.cursor? 5 = some 64 ∧ reached.Seeds 5 (.locator 5 spelledOut) ∧
      (reached.invoke (.locator 5 spelledOut)).maps.cursor? 5 = some 62 := by
  intro kernel history reached
  obtain ⟨-, hkept, hnext⟩ := cursor_falls_only_by_seeding kernel history 5
  have hnever : kernel.NeverSeeds 5 history := by decide +kernel
  have hcursor : reached.maps.cursor? 5 = some 64 := by decide +kernel
  have hseeds : reached.Seeds 5 (.locator 5 spelledOut) := by decide +kernel
  obtain ⟨moved, hmoved, -, hbase⟩ := hnext (.locator 5 spelledOut) 64 hcursor
  rw [hbase hseeds] at hmoved
  exact ⟨by decide +kernel, hnever, by decide +kernel, hkept hnever, hcursor, hseeds, hmoved⟩

/-- The tracing header enters the table of peer 5, another name follows and moves the cursor
on to 63; then the tracing header is spelled out once more, and the cursor falls to 62. -/
theorem cursor_falls_at_second_spelling :
    let kernel := Kernel.loaded 4 JumpTarget.all
    let before := kernel.run [.locator 5 spelledOut, .locator 5 otherName]
    let after := before.invoke (.locator 5 spelledOut)
    kernel.maps.cursors.toList = [] ∧ before.maps.cursor? 5 = some 63 ∧
      after.maps.cursor? 5 = some 62 ∧ ¬(63 : UInt8) ≤ 62 := by
  decide +kernel

end MeshTrace
