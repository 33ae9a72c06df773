import MeshTrace.Proofs.Header.PlainBlock
import MeshTrace.Proofs.Program.Composition
import MeshTrace.Proofs.Program.Seeding

/-!
# What a cursor counts

Let a peer be sent plain requests only, each one frame of few plain fields.  A request in
which no field spells the tracing header's name moves the peer's cursor past its new names;
one in which a field does makes the propagator set the cursor to the first dynamic index
(`Kernel.Ready.cursor?_outbound`).

So from the latest request that spells the tracing header out, the cursor counts the new
names of the requests behind it (`cursor_counts_later_names`).  The names that follow the
tracing header in its own block are not counted, since no scan gets to them
(`cursor_misses_names_behind_header`).
-/

namespace MeshTrace

open Header Propagation

/-- A plain request: a message that starts with, and shows, one frame of at most as many plain
fields as one pass examines. -/
structure Request where
  msg : Message
  /-- The bytes between the first word of the frame and its payload. -/
  flags : List UInt8
  block : List Field
  length_flags : flags.length = 5 := by decide
  length_block : block.length ≤ fieldsPerPass := by decide
  plain : ∀ field ∈ block, field.Plain := by decide
  addressable : msg.addressable = headersFrame flags block := by decide

namespace Request

/-- Whether a request spells the tracing header's name out. -/
def spellsTracing (request : Request) : Bool :=
  request.block.any Field.spellsTracing

/-- The run of the programs on a request to `peer`. -/
def outbound (peer : UInt32) (request : Request) : Invocation :=
  .locator peer request.msg

variable (request : Request)

/-- Plain fields are well-formed. -/
theorem wellFormed : ∀ field ∈ request.block, field.WellFormed :=
  fun field hfield => (request.plain field hfield).1

/-- A block of six fields fits into the bytes that a pass gets over. -/
theorem length_encodeAll_le :
    (Field.encodeAll request.block).length ≤ maxFieldSize * fieldsPerPass :=
  Nat.le_trans (Field.length_encodeAll_le request.wellFormed)
    (Nat.mul_le_mul_left _ request.length_block)

/-- A scan of a request goes over its block and nothing else. -/
theorem onePass_eq (budget : Nat) (cursor : Option UInt8) :
    onePass budget request.msg.addressable cursor =
      walked (headersFrame request.flags request.block).length []
        (walk request.block budget cursor Frame.headerSize) := by
  have hlength : (Field.encodeAll request.block).length ≤ Frame.maxLength :=
    Nat.le_trans request.length_encodeAll_le (by decide)
  have hpass := onePass_headersFrame request.wellFormed hlength request.length_flags [] budget
    cursor
  rwa [List.append_nil, ← request.addressable] at hpass

/-- Six fields are not too many for a scan. -/
theorem length_block_le_searchBudget :
    request.block.length ≤ searchBudget request.msg.addressable := by
  obtain ⟨more, hmore⟩ := exists_searchBudget_eq request.msg.addressable
  have hblock := request.length_block
  omega

end Request

/-! The maps -/

/-- Both slots are there. -/
structure ArgSlots.Present (slots : ArgSlots) : Prop where
  offset : slots.offset.present
  frameLength : slots.frameLength.present

/-- Slots that are there are there after a first pass. -/
theorem ArgSlots.Present.save {slots : ArgSlots} (h : slots.Present) (rest : Continuation) :
    (slots.save rest).Present := by
  constructor
  · rw [ArgSlots.save, Cell.present_set]
    exact h.offset
  · rw [ArgSlots.save, Cell.present_set]
    exact h.frameLength

/-- Slots that are there are there after a field was found. -/
theorem ArgSlots.Present.saveFound {slots : ArgSlots} (h : slots.Present) (offset : UInt32) :
    (slots.saveFound offset).Present := by
  refine ⟨?_, h.frameLength⟩
  rw [ArgSlots.saveFound, Cell.present_set]
  exact h.offset

/-- The propagator reads back an offset that a first pass may have left. -/
theorem ArgSlots.Present.bounded?_saveFound {slots : ArgSlots} (h : slots.Present)
    {offset : UInt32} (hoffset : offset ≤ maxOffset) :
    bounded? (slots.saveFound offset).offset = some offset := by
  rw [ArgSlots.bounded?_saveFound, if_pos ⟨h.offset, hoffset⟩]

namespace Maps

variable {maps : Maps} {peer : UInt32}

/-- Slots that are there are there after both passes. -/
theorem present_search (h : maps.args.Present) (peer : UInt32) (bytes : List UInt8) :
    (maps.search peer bytes).2.args.Present := by
  have hlocate : (maps.locate peer bytes).2.args = maps.args := args_withCursor _ _ _
  by_cases hended : ∀ rest, (maps.locate peer bytes).1 ≠ .exhausted rest
  · rwa [search_of_ne_exhausted hended, hlocate]
  · obtain ⟨rest, hrest⟩ := not_forall_not.mp hended
    rw [search_of_exhausted hrest, resume, args_withCursor]
    exact h.save rest

/-- Both passes together move the cursor on, if at all, and take no field. -/
theorem moved_search (maps : Maps) (peer : UInt32) (bytes : List UInt8) :
    maps.Moved peer none (maps.search peer bytes).2 := by
  have hlocate := maps.moved_locate peer bytes
  by_cases hended : ∀ rest, (maps.locate peer bytes).1 ≠ .exhausted rest
  · rwa [search_of_ne_exhausted hended]
  · obtain ⟨rest, hrest⟩ := not_forall_not.mp hended
    let resumed : Maps := { (maps.locate peer bytes).2 with args := maps.args.save rest }
    have hslots : maps.Moved peer none resumed := hlocate.of_cursors_eq rfl
    rw [search_of_exhausted hrest]
    exact hslots.trans (resumed.moved_resume peer bytes)

/-- Result and cursor of both passes are those of one scan. -/
theorem search_cursor? (h : maps.args.Present) (peer : UInt32) (bytes : List UInt8) :
    ((maps.search peer bytes).1, (maps.search peer bytes).2.cursor? peer) =
      onePass (searchBudget bytes) bytes (maps.cursor? peer) :=
  search_result_cursor h.offset h.frameLength peer bytes

/-- The propagator does not write the argument slots. -/
theorem args_propagate (maps : Maps) (peer : UInt32) (msg : Message) :
    (maps.propagate peer msg).2.2.args = maps.args := by
  have htracked : ∀ lead, (trackNewName maps peer lead).args = maps.args := by
    intro lead
    unfold trackNewName
    split <;> rfl
  have hends := maps.propagate_propagated peer msg
  generalize maps.propagate peer msg = ended at hends
  cases hends with
  | unread => rfl
  | stopped header => exact htracked _
  | aborted reads hroom hbytes => exact htracked _
  | injected reads hroom hbytes => exact htracked _

/-- Neither the passes nor the propagator lose a slot. -/
theorem present_forward (h : maps.args.Present) (peer : UInt32) (msg : Message) :
    (maps.forward peer msg).2.args.Present := by
  have hsearch := present_search h peer msg.addressable
  unfold forward
  generalize maps.search peer msg.addressable = ended at hsearch
  obtain ⟨result, passed⟩ := ended
  cases result with
  | pass | exhausted => exact hsearch
  | found offset =>
      dsimp only
      rw [args_propagate]
      exact hsearch.saveFound offset

end Maps

namespace Request

variable (request : Request) {maps : Maps}

/-- **A request that does not spell the tracing header out** is gone by, and its new names are
counted. -/
theorem search_unmarked (h : maps.args.Present) (hunmarked : request.spellsTracing = false)
    (peer : UInt32) :
    let ended := maps.search peer request.msg.addressable
    (ended.1, ended.2.cursor? peer) =
      (.pass, request.block.foldl Field.passed (maps.cursor? peer)) := by
  have hfields : ∀ field ∈ request.block, field.spellsTracing = false := by
    intro field hfield
    exact Bool.eq_false_iff.mpr (List.any_eq_false.mp hunmarked field hfield)
  intro ended
  rw [Maps.search_cursor? h, request.onePass_eq, walk_unmarked request.plain hfields
    request.length_block_le_searchBudget]
  -- Behind the frame there is nothing to read.
  cases searchBudget request.msg.addressable - request.block.length <;> rfl

/-- **A request that spells the tracing header out** is searched up to that field. -/
theorem search_marked (h : maps.args.Present) (hmarked : request.spellsTracing)
    (peer : UInt32) :
    ∃ offset, (maps.search peer request.msg.addressable).1 = .found offset ∧
      offset ≤ maxOffset ∧ Bytes.byte? request.msg.addressable offset.toNat = some 0x40 := by
  obtain ⟨skipped, found, rest, after, hblock, hfound, hwalk⟩ :=
    walk_marked request.plain hmarked request.length_block_le_searchBudget (maps.cursor? peer)
      Frame.headerSize
  let place := Frame.headerSize + (Field.encodeAll skipped).length
  have hreach : place ≤ maxOffset.toNat := by
    have hall := request.length_encodeAll_le
    have hmax : maxOffset.toNat = 2048 := by decide
    rw [hblock, Field.encodeAll, List.flatMap_append, List.length_append] at hall
    simp only [place, Field.encodeAll, Frame.headerSize, maxFieldSize, fieldsPerPass] at hall ⊢
    omega
  have hplace : (UInt32.ofNat place).toNat = place := by
    apply UInt32.toNat_ofNat_of_lt'
    exact Nat.lt_of_le_of_lt hreach (by decide)
  refine ⟨UInt32.ofNat place, ?_, ?_, ?_⟩
  · have hsearch := Maps.search_cursor? h peer request.msg.addressable
    rw [request.onePass_eq, hwalk] at hsearch
    exact congrArg Prod.fst hsearch
  · rw [UInt32.le_iff_toNat_le, hplace]
    exact hreach
  · have hlead : found.lead = 0x40 := by
      refine (request.plain found ?_).lead_eq hfound
      rw [hblock]
      exact List.mem_append_right _ List.mem_cons_self
    rw [hplace, request.addressable, hblock, byte?_headersFrame request.length_flags, hlead]

end Request

namespace Maps

variable {maps : Maps} {peer : UInt32} {request : Request}

/-- A request without the tracing header moves the cursor past its new names. -/
theorem cursor?_forward_unmarked (h : maps.args.Present)
    (hunmarked : request.spellsTracing = false) :
    (maps.forward peer request.msg).2.cursor? peer =
      request.block.foldl Field.passed (maps.cursor? peer) := by
  have hsearch := request.search_unmarked h hunmarked peer
  unfold forward
  generalize maps.search peer request.msg.addressable = ended at hsearch
  obtain ⟨result, passed⟩ := ended
  obtain ⟨rfl, hcursor⟩ := Prod.mk.inj hsearch
  exact hcursor

/-- A request with the tracing header sets the cursor to the first dynamic index. -/
theorem cursor?_forward_marked (h : maps.args.Present) (hroom : maps.CanSeed peer)
    (hmarked : request.spellsTracing) :
    (maps.forward peer request.msg).2.cursor? peer = some (placeBehind 0) := by
  obtain ⟨offset, hresult, hoffset, hlead⟩ := request.search_marked h hmarked peer
  have hpassed := (moved_search maps peer request.msg.addressable).canSeed hroom
  have hslots := present_search h peer request.msg.addressable
  unfold forward
  generalize maps.search peer request.msg.addressable = ended at hresult hpassed hslots
  obtain ⟨result, passed⟩ := ended
  obtain rfl : result = _ := hresult
  have htaken : (passed.saveFound offset).taken? request.msg = some 0x40 := by
    have hread : ArgSlots.bounded? (passed.saveFound offset).args.offset = some offset :=
      hslots.bounded?_saveFound hoffset
    rw [taken?, header?, hread, Option.bind_some, hlead]
    rfl
  have hmoved := (passed.saveFound offset).moved_propagate peer request.msg
  rw [htaken] at hmoved
  exact hmoved.seeded rfl hpassed

end Maps

namespace Kernel

/-- Nothing that the programs need for a message to `peer` is missing: the entries of the jump
table, the argument slots, and a cursor of the peer or room for one. -/
structure Ready (kernel : Kernel) (peer : UInt32) : Prop where
  targets : ∀ target, target ∈ kernel.targets
  slots : kernel.maps.args.Present
  room : kernel.maps.CanSeed peer

variable {kernel : Kernel} {peer : UInt32}

/-- A service that was just loaded is ready for every peer. -/
theorem Ready.loaded (service : UInt8) (peer : UInt32) :
    (Kernel.loaded service JumpTarget.all).Ready peer where
  targets target := by
    show target ∈ JumpTarget.all
    cases target <;> decide
  slots := ⟨rfl, rfl⟩
  room := Or.inr rfl

/-- A request leaves the service ready. -/
theorem Ready.invoke_outbound (h : kernel.Ready peer) (request : Request) :
    (kernel.invoke (request.outbound peer)).Ready peer := by
  obtain ⟨-, hkernel⟩ := locateHeader_eq_forward h.targets peer request.msg
  have hmoved := (moved_locateHeader kernel peer request.msg).canSeed h.room
  have hslots := Maps.present_forward h.slots peer request.msg
  rw [Request.outbound, invoke, hkernel] at *
  exact ⟨h.targets, hslots, hmoved⟩

/-- **One request.**  It seeds the cursor, or moves it past its new names. -/
theorem Ready.cursor?_outbound (h : kernel.Ready peer) (request : Request) :
    (kernel.invoke (request.outbound peer)).maps.cursor? peer =
      if request.spellsTracing then some (placeBehind 0)
      else request.block.foldl Field.passed (kernel.maps.cursor? peer) := by
  obtain ⟨-, hkernel⟩ := locateHeader_eq_forward h.targets peer request.msg
  rw [Request.outbound, invoke, hkernel]
  cases hspells : request.spellsTracing with
  | true => exact Maps.cursor?_forward_marked h.slots h.room hspells
  | false => exact Maps.cursor?_forward_unmarked h.slots hspells

/-- Requests leave the service ready, however many there are. -/
theorem Ready.run_outbound (h : kernel.Ready peer) (requests : List Request) :
    (kernel.run (requests.map (·.outbound peer))).Ready peer := by
  induction requests generalizing kernel with
  | nil => exact h
  | cons request rest ih => exact ih (h.invoke_outbound request)

/-- Requests that do not spell the tracing header out move the cursor past all their new
names. -/
theorem Ready.cursor?_run_unmarked (h : kernel.Ready peer) {requests : List Request}
    (hunmarked : ∀ request ∈ requests, request.spellsTracing = false) {count : Nat}
    (hcursor : kernel.maps.cursor? peer = some (placeBehind count)) :
    (kernel.run (requests.map (·.outbound peer))).maps.cursor? peer =
      some (placeBehind (count + newNames (requests.flatMap (·.block)))) := by
  induction requests generalizing kernel count with
  | nil => exact hcursor
  | cons request rest ih =>
      obtain ⟨hother, hothers⟩ := List.forall_mem_cons.mp hunmarked
      have hnext := h.cursor?_outbound request
      rw [hother, hcursor, foldl_passed] at hnext
      have hnames : newNames ((request :: rest).flatMap (·.block)) =
          newNames request.block + newNames (rest.flatMap (·.block)) := by
        rw [List.flatMap_cons, newNames, List.countP_append]
        rfl
      rw [hnames, ← Nat.add_assoc]
      exact ih (h.invoke_outbound request) hothers hnext

end Kernel

/-- **A cursor counts the names that later requests bring.**  A peer is sent any plain
requests, and nothing that the programs need is missing.  Then, from the latest request on
that spells the tracing header's name out, the peer's cursor is 62 and one more for each new
name in the requests behind that one, up to 255.  The names that follow the tracing header
in its own block do not count. -/
theorem cursor_counts_later_names {kernel : Kernel} {peer : UInt32} (ready : kernel.Ready peer)
    (before : List Request) (marked : Request) (after : List Request)
    (hmarked : marked.spellsTracing)
    (hafter : ∀ request ∈ after, request.spellsTracing = false) :
    (kernel.run ((before ++ marked :: after).map (·.outbound peer))).maps.cursor? peer =
      some (UInt8.ofNat (min 255 (62 + newNames (after.flatMap (·.block))))) := by
  let reached := kernel.run (before.map (·.outbound peer))
  have hreached : reached.Ready peer := ready.run_outbound before
  have hseeded := hreached.cursor?_outbound marked
  rw [if_pos hmarked] at hseeded
  have hcounted := (hreached.invoke_outbound marked).cursor?_run_unmarked hafter hseeded
  rw [Nat.zero_add] at hcounted
  have hrun : kernel.run ((before ++ marked :: after).map (·.outbound peer)) =
      (reached.invoke (marked.outbound peer)).run (after.map (·.outbound peer)) := by
    rw [List.map_append, List.map_cons, Kernel.run, List.foldl_append]
    rfl
  rw [hrun]
  exact hcounted

/-- The tracing header, and a new name behind it. -/
def headerThenName : Request where
  block := [.tracing [1, 2, 3, 4, 5, 6, 7, 8], .literal [0x74, 0x65] [9]]
  flags := [4, 0, 0, 0, 1]
  msg := .ofBytes (headersFrame [4, 0, 0, 0, 1]
    [.tracing [1, 2, 3, 4, 5, 6, 7, 8], .literal [0x74, 0x65] [9]])

/-- Two new names with an indexed field between them. -/
def twoNames : Request where
  block := [.literal [1] [2], .indexed 0xBE, .literal [3] []]
  flags := [5, 0, 0, 0, 1]
  msg := .ofBytes (headersFrame [5, 0, 0, 0, 1]
    [.literal [1] [2], .indexed 0xBE, .literal [3] []])

/-- Two requests behind the latest tracing header bring four new names. -/
theorem cursor_counts_later_names_fourNames :
    let kernel := Kernel.loaded 4 JumpTarget.all
    kernel.Ready 5 ∧ headerThenName.spellsTracing ∧
      (∀ request ∈ [twoNames, twoNames], request.spellsTracing = false) ∧
      (kernel.run (([twoNames] ++ headerThenName :: [twoNames, twoNames]).map
        (·.outbound 5))).maps.cursor? 5 = some 66 := by
  intro kernel
  have hready : kernel.Ready 5 := .loaded 4 5
  have hmarked : headerThenName.spellsTracing := by decide
  have hafter : ∀ request ∈ [twoNames, twoNames], request.spellsTracing = false := by decide
  exact ⟨hready, hmarked, hafter,
    cursor_counts_later_names hready [twoNames] headerThenName [twoNames, twoNames] hmarked hafter⟩

/-- **A name behind the tracing header goes uncounted.**  The tracing header enters the table
of a peer and another name follows in the same block, so that the header stands at 63; the
cursor is 62.  Two more names put the header at 65, and the cursor at 64. -/
theorem cursor_misses_names_behind_header :
    let kernel := Kernel.loaded 4 JumpTarget.all
    let behind := headerThenName.block.drop 1
    (headerThenName.block.take 1).any Field.spellsTracing ∧
      62 + newNames behind = 63 ∧ 62 + newNames (behind ++ twoNames.block) = 65 ∧
      (kernel.run [headerThenName.outbound 5]).maps.cursor? 5 = some 62 ∧
      (kernel.run [headerThenName.outbound 5, twoNames.outbound 5]).maps.cursor? 5 = some 64 := by
  decide +kernel

end MeshTrace
