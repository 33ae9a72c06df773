import MeshTrace.Proofs.Header.Passes
import MeshTrace.Proofs.Propagation

/-!
# A cursor stays in the dynamic table

The fixed entries of a header table have the numbers up to 61, and a cursor is to say where
the tracing header stands behind them.  A propagation sets a new cursor to the first place
there, a pass moves a cursor on by one or leaves it at 255, and nothing else writes one.  So
no cursor ever points at a fixed entry, and none is taken away, whatever the messages and
the argument slots hold (`cursors_stay_dynamic`).

A field that names a fixed entry is therefore never taken for the tracing header.
`Header.Dynamic` is kept by each field that a pass examines (`dynamic_step`), so by each
pass (`IsPass`), so by each use of the maps (`dynamic_use`), so by any run of uses.
-/

namespace MeshTrace

namespace Header

/-- A cursor that points behind the fixed entries, if there is a cursor. -/
def Dynamic (cursor : Option UInt8) : Prop :=
  ∀ place, cursor = some place → dynamicTableBase ≤ place

/-- The leading byte of a field that enters the table under the name of a fixed entry. -/
def NamesFixedEntry (lead : UInt8) : Prop :=
  entersTable lead ∧ 1 ≤ (indexOf lead).toNat ∧ (indexOf lead).toNat ≤ 61

theorem dynamic_none : Dynamic none := nofun

theorem dynamic_base : Dynamic (some dynamicTableBase) := by
  rintro _ ⟨⟩
  exact UInt8.le_refl _

/-- A cursor that moves on stays in the dynamic table. -/
theorem dynamic_bump {cursor : Option UInt8} (h : Dynamic cursor) :
    Dynamic (cursor.map bump) := by
  intro place hplace
  obtain ⟨before, hbefore, rfl⟩ := Option.map_eq_some_iff.mp hplace
  have hle := UInt8.le_iff_toNat_le.mp (h before hbefore)
  unfold bump
  split
  · decide
  · rename_i hsmall
    have hne : before.toNat ≠ 255 := fun heq => hsmall (UInt8.toNat_inj.mp heq)
    have hlt := before.toNat_lt
    have hnext : (before + 1).toNat = before.toNat + 1 := by
      rw [UInt8.toNat_add]
      have hone : (1 : UInt8).toNat = 1 := rfl
      omega
    rw [UInt8.le_iff_toNat_le, hnext]
    omega

variable {bytes : List UInt8} {cursor : Option UInt8}

/-- Examining a field moves the cursor on by one or not at all. -/
theorem step_snd_cases (bytes : List UInt8) (cursor : Option UInt8) (offset : Nat) :
    (step bytes cursor offset).2 = cursor ∨ (step bytes cursor offset).2 = cursor.map bump := by
  unfold step
  split
  · exact Or.inl rfl
  · split
    · exact Or.inl rfl
    · exact Or.inl rfl
    · split
      · exact Or.inl rfl
      · split
        · exact Or.inl rfl
        · exact Or.inl rfl
        · exact Or.inr rfl
    · split <;> exact Or.inl rfl

/-- Examining one field keeps the cursor in the dynamic table. -/
theorem dynamic_step (h : Dynamic cursor) (offset : Nat) :
    Dynamic (step bytes cursor offset).2 := by
  rcases step_snd_cases bytes cursor offset with hsame | hmoved
  · rwa [hsame]
  · rw [hmoved]
    exact dynamic_bump h

/-- However many fields are examined, the cursor stays in the dynamic table. -/
theorem dynamic_fields (frameEnd budget : Nat) (h : Dynamic cursor) (offset : Nat) :
    Dynamic (fields bytes frameEnd budget cursor offset).2 := by
  induction budget generalizing cursor offset with
  | zero => exact h
  | succ budget ih =>
      have hstep : Dynamic (step bytes cursor offset).2 := dynamic_step h offset
      rw [fields]
      split
      · exact h
      · generalize step bytes cursor offset = examined at hstep
        obtain ⟨taken, after⟩ := examined
        cases taken with
        | unreadable => exact hstep
        | tracing => exact hstep
        | next place => exact ih hstep place

/-- **The tracing header never has the name of a fixed entry.**  Its leading byte has no
index, or the index at which the cursor is. -/
theorem IsTracing.not_namesFixedEntry {offset : Nat} {lead : UInt8}
    (h : IsTracing bytes cursor offset lead) (hcursor : Dynamic cursor) :
    ¬ NamesFixedEntry lead := by
  rintro ⟨-, hpos, hle⟩
  rcases h.named with ⟨hnew, -⟩ | ⟨-, hindex⟩
  · have hnames : Propagation.namesItself lead := (namesItself_iff lead h.enters).mpr hnew
    have hzero : indexOf lead = 0 := eq_of_beq hnames
    rw [hzero] at hpos
    exact absurd hpos (by decide)
  · have hbase := UInt8.le_iff_toNat_le.mp (hcursor _ hindex)
    have hvalue : dynamicTableBase.toNat = 62 := rfl
    omega

/-- What a pass over `bytes` does with a cursor: it gives none and takes none away, keeps it
in the dynamic table, and reports the place of a tracing header in 32 bits. -/
structure IsPass (bytes : List UInt8) (run : Option UInt8 → Scan × Option UInt8) : Prop where
  isSome : ∀ cursor, (run cursor).2.isSome = cursor.isSome
  dynamic : ∀ {cursor}, Dynamic cursor → Dynamic (run cursor).2
  found : ∀ {cursor offset}, (run cursor).1 = .found offset →
    ∃ place lead, UInt32.ofNat place = offset ∧ IsTracing bytes (run cursor).2 place lead

/-- A scan from any place is a pass. -/
theorem isPass_scan (bytes : List UInt8) (start : Continuation) :
    IsPass bytes fun cursor => scan bytes cursor start := by
  refine ⟨fun cursor => isSome_scan bytes cursor start, ?_, ?_⟩
  · intro cursor hcursor
    rw [scan_eq]
    exact dynamic_fields _ _ hcursor _
  · intro cursor offset hfound
    rw [scan_eq] at hfound ⊢
    generalize hended : fields _ _ _ _ _ = ended at hfound ⊢
    obtain ⟨outcome, after⟩ := ended
    cases outcome with
    | pass | exhausted => cases hfound
    | found place =>
        obtain ⟨-, lead, htracing⟩ := fields_found hended
        exact ⟨place, lead, Scan.found.inj hfound, htracing⟩

/-- The first pass is one, also over bytes that are no HEADERS frame. -/
theorem isPass_locate (bytes : List UInt8) : IsPass bytes (locate bytes) := by
  cases hword : Frame.firstWord? Frame.headersType bytes with
  | none =>
      have hnone : locate bytes = fun cursor => (.pass, cursor) := by
        funext cursor
        rw [locate, hword]
      rw [hnone]
      refine ⟨fun _ => rfl, id, ?_⟩
      intro cursor offset hfound
      cases hfound
  | some word =>
      have hscan : locate bytes = fun cursor =>
          scan bytes cursor ⟨UInt32.ofNat Frame.headerSize, Frame.lengthOf word⟩ := by
        funext cursor
        rw [locate, hword]
      rw [hscan]
      exact isPass_scan bytes _

/-- A later pass is one, also with nothing to go on with. -/
theorem isPass_resume (bytes : List UInt8) (start : Option Continuation) :
    IsPass bytes fun cursor => resume bytes cursor start := by
  cases start with
  | none => exact ⟨fun _ => rfl, id, nofun⟩
  | some start =>
      have hscan := isPass_scan bytes start
      have hended : ∀ cursor,
          (resume bytes cursor (some start)).2 = (scan bytes cursor start).2 := by
        intro cursor
        rw [resume_some_eq, scan_eq]
      refine ⟨fun cursor => isSome_resume bytes cursor (some start), ?_, ?_⟩
      · intro cursor hcursor
        rw [hended]
        exact hscan.dynamic hcursor
      · intro cursor offset hfound
        have hreported : (scan bytes cursor start).1 = .found offset := by
          rw [resume] at hfound
          generalize scan bytes cursor start = ended at hfound
          obtain ⟨result, after⟩ := ended
          cases result with
          | exhausted rest => cases hfound
          | pass | found => exact hfound
        rw [hended]
        exact hscan.found hreported

end Header

open Header

namespace Maps

/-- No cursor points at a fixed entry. -/
def CursorsDynamic (maps : Maps) : Prop :=
  ∀ peer, Dynamic (maps.cursors.get? peer)

/-- A use of the maps in the search for a tracing header.  Between two of them someone else
may write to the argument slots. -/
inductive Use where
  | locate (peer : UInt32) (bytes : List UInt8)
  | scan (peer : UInt32) (bytes : List UInt8) (start : Continuation)
  | resume (peer : UInt32) (bytes : List UInt8)
  | saveContinuation (rest : Continuation)
  | saveFound (offset : UInt32)
  | propagate (peer : UInt32) (msg : Message)
  | overwriteSlots (args : ArgSlots)

/-- The maps after one use. -/
def use (maps : Maps) : Use → Maps
  | .locate peer bytes => (maps.locate peer bytes).2
  | .scan peer bytes start => (maps.scan peer bytes start).2
  | .resume peer bytes => (maps.resume peer bytes).2
  | .saveContinuation rest => maps.saveContinuation rest
  | .saveFound offset => maps.saveFound offset
  | .propagate peer msg => (maps.propagate peer msg).2.2
  | .overwriteSlots args => { maps with args }

/-- The maps after some uses, the first one first. -/
def useAll (maps : Maps) (uses : List Use) : Maps :=
  uses.foldl use maps

/-- The message that a use scans, and the result. -/
def scanned? (maps : Maps) : Use → Option (List UInt8 × Scan)
  | .locate peer bytes => some (bytes, (maps.locate peer bytes).1)
  | .scan peer bytes start => some (bytes, (maps.scan peer bytes start).1)
  | .resume peer bytes => some (bytes, (maps.resume peer bytes).1)
  | .saveContinuation _ | .saveFound _ | .propagate .. | .overwriteSlots _ => none

variable {maps : Maps} {bytes : List UInt8} {run : Option UInt8 → Scan × Option UInt8}

/-- **What a use does to the cursors**: nothing, or it passes over a message, or it sets a
cursor to the first dynamic entry. -/
theorem use_cases (maps : Maps) (u : Use) :
    (maps.use u).cursors = maps.cursors ∨
      (∃ peer bytes run, IsPass bytes run ∧ maps.use u = (maps.withCursor peer run).2) ∨
      ∃ peer, (maps.use u).cursors = maps.cursors.insert peer dynamicTableBase := by
  cases u with
  | locate peer bytes => exact Or.inr (Or.inl ⟨peer, bytes, _, isPass_locate bytes, rfl⟩)
  | scan peer bytes start => exact Or.inr (Or.inl ⟨peer, bytes, _, isPass_scan bytes start, rfl⟩)
  | resume peer bytes =>
      exact Or.inr (Or.inl ⟨peer, bytes, _, isPass_resume bytes maps.args.load?, rfl⟩)
  | saveContinuation rest => exact Or.inl rfl
  | saveFound offset => exact Or.inl rfl
  | overwriteSlots args => exact Or.inl rfl
  | propagate peer msg =>
      have htracked : ∀ lead, (Propagation.trackNewName maps peer lead).cursors = maps.cursors ∨
          (Propagation.trackNewName maps peer lead).cursors =
            maps.cursors.insert peer dynamicTableBase := by
        intro lead
        unfold Propagation.trackNewName
        split
        · exact Or.inr rfl
        · exact Or.inl rfl
      have hends := maps.propagate_propagated peer msg
      simp only [use]
      generalize maps.propagate peer msg = ended at hends
      cases hends with
      | unread => exact Or.inl rfl
      | stopped | aborted | injected =>
          rcases htracked _ with hsame | hset
          · exact Or.inl hsame
          · exact Or.inr (Or.inr ⟨peer, hset⟩)

/-- Every use keeps the cursors in the dynamic table. -/
theorem dynamic_use (h : maps.CursorsDynamic) (u : Use) : (maps.use u).CursorsDynamic := by
  intro other
  rcases maps.use_cases u with hsame | ⟨peer, bytes, run, hrun, hpassed⟩ | ⟨peer, hset⟩
  · rw [hsame]
    exact h other
  · rw [hpassed]
    by_cases hother : other = peer
    · rw [hother, get?_withCursor hrun.isSome]
      exact hrun.dynamic (h peer)
    · rw [get?_withCursor_of_ne hother]
      exact h other
  · intro place hplace
    rw [hset] at hplace
    rcases Table.get?_insert_cases hplace with ⟨-, rfl⟩ | hold
    · exact dynamic_base _ rfl
    · exact h other place hold

/-- No use takes a cursor away. -/
theorem contains_use {peer : UInt32} (h : maps.cursors.contains peer) (u : Use) :
    (maps.use u).cursors.contains peer := by
  rcases maps.use_cases u with hsame | ⟨other, bytes, run, hrun, hpassed⟩ | ⟨other, hset⟩
  · rwa [hsame]
  · rw [hpassed]
    by_cases hother : peer = other
    · rw [Table.contains_eq_isSome_get?] at *
      rwa [hother, get?_withCursor hrun.isSome, hrun.isSome, ← hother]
    · rw [Table.contains_eq_isSome_get?] at *
      rwa [get?_withCursor_of_ne hother]
  · rw [hset]
    exact Table.contains_insert_of_contains _ _ h

/-- What every use keeps is kept by any uses. -/
theorem useAll_induction {P : Maps → Prop} (hstep : ∀ {maps}, P maps → ∀ u, P (use maps u))
    (h : P maps) (uses : List Use) : P (maps.useAll uses) := by
  induction uses generalizing maps with
  | nil => exact h
  | cons u rest ih => exact ih (hstep h u)

/-- **Whatever is done with the maps**, cursors stay in the dynamic table. -/
theorem dynamic_useAll (h : maps.CursorsDynamic) (uses : List Use) :
    (maps.useAll uses).CursorsDynamic :=
  useAll_induction dynamic_use h uses

/-- **Whatever is done with the maps**, a peer keeps its cursor. -/
theorem contains_useAll {peer : UInt32} (h : maps.cursors.contains peer) (uses : List Use) :
    (maps.useAll uses).cursors.contains peer := by
  let P : Maps → Prop := fun maps => maps.cursors.contains peer
  have hkept : P maps := h
  exact useAll_induction contains_use hkept uses

/-- A pass that starts with a dynamic cursor reports a field without the name of a fixed
entry. -/
theorem found_of_isPass (hrun : IsPass bytes run) (h : maps.CursorsDynamic) {peer offset : UInt32}
    (hfound : (maps.withCursor peer run).1 = .found offset) :
    ∃ place lead, UInt32.ofNat place = offset ∧ Bytes.byte? bytes place = some lead ∧
      ¬ NamesFixedEntry lead := by
  rw [withCursor_fst] at hfound
  obtain ⟨place, lead, hplace, htracing⟩ := hrun.found hfound
  exact ⟨place, lead, hplace, htracing.leading,
    htracing.not_namesFixedEntry (hrun.dynamic (h peer))⟩

/-- No use of the maps finds a field that has the name of a fixed entry. -/
theorem found_of_scanned? (h : maps.CursorsDynamic) {u : Use} {offset : UInt32}
    (hfound : maps.scanned? u = some (bytes, .found offset)) :
    ∃ place lead, UInt32.ofNat place = offset ∧ Bytes.byte? bytes place = some lead ∧
      ¬ NamesFixedEntry lead := by
  cases u with
  | locate peer scanned =>
      obtain ⟨rfl, hresult⟩ := Prod.mk.inj (Option.some.inj hfound)
      exact found_of_isPass (isPass_locate scanned) h hresult
  | scan peer scanned start =>
      obtain ⟨rfl, hresult⟩ := Prod.mk.inj (Option.some.inj hfound)
      exact found_of_isPass (isPass_scan scanned start) h hresult
  | resume peer scanned =>
      obtain ⟨rfl, hresult⟩ := Prod.mk.inj (Option.some.inj hfound)
      exact found_of_isPass (isPass_resume scanned maps.args.load?) h hresult
  | saveContinuation | saveFound | propagate | overwriteSlots => cases hfound

/-- **A cursor never points at a fixed entry.**  Start without cursors and use the maps in any
way.  Every cursor is between 62 and 255, a peer that has one keeps one, and no pass reports a
field that enters the table under the name of a fixed entry.  The field stands where the pass
says, unless the message is longer than 32 bits can tell. -/
theorem cursors_stay_dynamic (maps : Maps) (capacity : Option Nat) (uses later : List Use) :
    let reached := { maps with cursors := .empty capacity }.useAll uses
    (∀ peer cursor, reached.cursors.get? peer = some cursor →
      62 ≤ cursor.toNat ∧ cursor.toNat ≤ 255) ∧
      (∀ peer, reached.cursors.contains peer →
        (reached.useAll later).cursors.contains peer) ∧
      ∀ u bytes offset, reached.scanned? u = some (bytes, .found offset) →
        ∃ place lead, UInt32.ofNat place = offset ∧
          (bytes.length ≤ UInt32.size → place = offset.toNat) ∧
          Bytes.byte? bytes place = some lead ∧ ¬ NamesFixedEntry lead := by
  intro reached
  have hstart : CursorsDynamic { maps with cursors := .empty capacity } := by
    intro peer
    have hnone : (Table.empty capacity : Table UInt32 UInt8).get? peer = none :=
      Table.get?_empty _ _
    rw [hnone]
    exact dynamic_none
  have hreached : reached.CursorsDynamic := dynamic_useAll hstart uses
  refine ⟨?_, ?_, ?_⟩
  · intro peer cursor hcursor
    have hle := UInt8.le_iff_toNat_le.mp (hreached peer cursor hcursor)
    exact ⟨hle, Nat.le_of_lt_succ cursor.toNat_lt⟩
  · intro peer hpeer
    exact contains_useAll hpeer later
  · intro u bytes offset hfound
    obtain ⟨place, lead, hplace, hlead, hfixed⟩ := found_of_scanned? hreached hfound
    refine ⟨place, lead, hplace, fun hshort => ?_, hlead, hfixed⟩
    have hinside : place < bytes.length := (List.getElem?_eq_some_iff.mp hlead).1
    rw [← hplace, UInt32.toNat_ofNat_of_lt' (by omega)]

/-- A HEADERS frame whose only field has the name of entry `index`. -/
def referring (index : UInt8) : List UInt8 :=
  Frame.encode Frame.headersType (Field.reference index [1, 2, 3, 4, 5, 6, 7, 8]).encode

/-- A propagation of a header that spells its name out gives the peer a cursor.  From then on
the header is found under the first dynamic entry, and nothing is under a fixed one. -/
theorem cursors_stay_dynamic_seeded :
    let spelled := Message.ofBytes
      (Frame.encode Frame.headersType (Field.tracing [1, 2, 3, 4, 5, 6, 7, 8]).encode)
    let reached := Maps.useAll { ({} : Maps) with cursors := .empty none }
      [.saveFound 9, .propagate 5 spelled]
    reached.scanned? (.locate 5 (referring 62)) = some (referring 62, .found 9) ∧
      reached.scanned? (.locate 5 (referring 4)) = some (referring 4, .pass) ∧
      ∃ lead, Bytes.byte? (referring 62) 9 = some lead ∧ ¬ NamesFixedEntry lead := by
  intro spelled reached
  have hfound : reached.scanned? (.locate 5 (referring 62)) =
      some (referring 62, .found 9) := by decide +kernel
  have hpassed : reached.scanned? (.locate 5 (referring 4)) = some (referring 4, .pass) := by
    decide +kernel
  obtain ⟨-, -, hfields⟩ :=
    cursors_stay_dynamic {} none [.saveFound 9, .propagate 5 spelled] []
  obtain ⟨place, lead, -, hplace, hlead, hfixed⟩ := hfields _ _ _ hfound
  have hshort : (referring 62).length ≤ UInt32.size := by decide
  obtain rfl : place = 9 := hplace hshort
  exact ⟨hfound, hpassed, lead, hlead, hfixed⟩

end Maps

end MeshTrace
