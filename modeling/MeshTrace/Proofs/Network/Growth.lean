import MeshTrace.Proofs.Network.Provenance

/-!
# When a stored path grows

A node keeps one record of a trace at a time, and a frame of the trace overwrites it,
whatever both count.  So a record that is neither evicted nor consumed is the path of the
frame that the node received last (`SparedBy.record?_run`), and how it grows is told by the
order in which frames of the trace come in: `arrivals` lists their paths.

Frames of one trace can overtake each other.  The hop count falls in a step exactly if the
step brings a frame that counts fewer hops than the record (`Spares.shrinks_iff`), and it never
falls exactly if the frames come in the order of their counts (`stored_path_is_latest_arrival`).
A frame that went out first and comes in last makes the record shorter
(`late_frame_shrinks_record`).
-/

namespace MeshTrace

/-- The trace whose context frame a propagation put in front of the message. -/
def Propagation.injectedTrace? : Propagation → Option UInt64
  | .injected traceId _ => some traceId
  | .pass | .aborted _ => none

namespace Maps

variable {maps : Maps}

/-- **Caching spares a record** unless its trace leaves the ring.  The record is the new path
if the path is of its trace. -/
theorem get?_cachePath_of_not_evicted {traceId other : UInt64} {path stored : Path}
    (hstored : maps.paths.get? other = some stored)
    (hkept : (maps.cachePath traceId path).1 ≠ .stored (some other)) :
    (maps.cachePath traceId path).2.paths.get? other =
      some (if traceId = other then path else stored) := by
  have hinserted : (maps.paths.insert traceId path).get? other =
      some (if traceId = other then path else stored) := by
    split
    · rename_i hsame
      subst hsame
      refine Table.get?_insert_self path (Or.inl ?_)
      rw [Table.contains_eq_isSome_get?, hstored]
      rfl
    · rename_i hother
      rw [Table.get?_insert_of_ne _ _ (Ne.symm hother), hstored]
  unfold cachePath at hkept ⊢
  split
  · rename_i hhead htail
    split
    · exact hinserted
    · rename_i oldest _ hpush
      have hne : oldest ≠ other := by
        rintro rfl
        simp only [hhead, htail, hpush, ne_eq, not_true_eq_false] at hkept
      rw [Table.get?_erase, if_neg hne]
      exact hinserted
  · exact hinserted

/-- **A propagation spares a record** unless a frame of its trace goes out. -/
theorem get?_propagate_of_not_injected {traceId : UInt64} {stored : Path} {peer : UInt32}
    {msg : Message} (hstored : maps.paths.get? traceId = some stored)
    (hkept : (maps.propagate peer msg).1.injectedTrace? ≠ some traceId) :
    (maps.propagate peer msg).2.2.paths.get? traceId = some stored := by
  have hend := propagate_propagated maps peer msg
  generalize maps.propagate peer msg = ending at hend hkept
  cases hend with
  | unread => exact hstored
  | stopped | aborted => rwa [Propagation.paths_trackNewName]
  | @injected _ _ rawId _ _ =>
      have hne : Propagation.traceIdOf rawId ≠ traceId := by
        rintro rfl
        exact hkept rfl
      rw [Table.get?_erase, if_neg hne]
      exact hstored

end Maps

namespace Network

variable {ν : Type} [DecidableEq ν]

/-- The path that a node has stored for a trace. -/
def record? (network : Network ν) (node : ν) (traceId : UInt64) : Option Path :=
  (network.nodes node).paths.get? traceId

/-- The message in flight that a move delivers to a node. -/
def delivered? (network : Network ν) (node : ν) : Move ν → Option Message
  | .propagate .. => none
  | .receive receiver sent =>
    match network.log[sent]? with
    | some (.injected injection) => if receiver = node then some injection.message else none
    | _ => none

/-- The path of a trace that a move brings to a node: the one in the context frame that it
delivers, if the frame is of that trace. -/
def brought? (network : Network ν) (node : ν) (traceId : UInt64) (m : Move ν) : Option Path :=
  (((network.delivered? node m).bind fun message => Context.read? message.bytes).filter
    (·.1 == traceId)).map (·.2)

/-- A move evicts the record of a trace: to cache what it delivers, the node drops the trace. -/
def Evicts (network : Network ν) (node : ν) (traceId : UInt64) (m : Move ν) : Prop :=
  ((network.delivered? node m).bind fun message =>
    ((network.nodes node).receive message.bytes).1) = some (.stored (some traceId))

instance (network : Network ν) (node : ν) (traceId : UInt64) (m : Move ν) :
    Decidable (network.Evicts node traceId m) := by
  unfold Evicts
  infer_instance

/-- A move consumes the record of a trace: the node sends a frame of the trace. -/
def Consumes (network : Network ν) (node : ν) (traceId : UInt64) : Move ν → Prop
  | .propagate sender args peer msg =>
    sender = node ∧
      (Maps.propagate { network.nodes node with args } peer msg).1.injectedTrace? = some traceId
  | .receive .. => False

instance (network : Network ν) (node : ν) (traceId : UInt64) (m : Move ν) :
    Decidable (network.Consumes node traceId m) := by
  unfold Consumes
  split <;> infer_instance

/-- A move neither evicts nor consumes the record of a trace. -/
structure Spares (network : Network ν) (node : ν) (traceId : UInt64) (m : Move ν) : Prop where
  unevicted : ¬network.Evicts node traceId m
  unconsumed : ¬network.Consumes node traceId m

/-- None of some moves in turn evicts or consumes the record of a trace. -/
def SparedBy (network : Network ν) (node : ν) (traceId : UInt64) : List (Move ν) → Prop
  | [] => True
  | m :: rest => network.Spares node traceId m ∧ (network.move m).SparedBy node traceId rest

/-- The paths of a trace that some moves bring to a node, the first one first. -/
def arrivals (network : Network ν) (node : ν) (traceId : UInt64) : List (Move ν) → List Path
  | [] => []
  | m :: rest =>
    (network.brought? node traceId m).toList ++ (network.move m).arrivals node traceId rest

/-- Through some moves, no step leaves the record of a trace with fewer hops than before. -/
def NeverShrinks (network : Network ν) (node : ν) (traceId : UInt64) (moves : List (Move ν)) :
    Prop :=
  ∀ done m rest, moves = done ++ m :: rest → ∀ old new,
    (network.run done).record? node traceId = some old →
    (network.run (done ++ [m])).record? node traceId = some new →
    old.count.toNat ≤ new.count.toNat

variable {network : Network ν} {node : ν} {traceId : UInt64} {path : Path} {m : Move ν}

/-- A node that receives a message caches it, and no other node changes. -/
theorem nodes_receive (network : Network ν) (node receiver : ν) (sent : Nat) :
    (network.receive receiver sent).nodes node =
      match network.delivered? node (.receive receiver sent) with
      | some message => ((network.nodes node).receive message.bytes).2
      | none => network.nodes node := by
  simp only [receive, delivered?]
  cases network.log[sent]? with
  | none => rfl
  | some event =>
      cases event with
      | received _ _ => rfl
      | injected injection =>
          by_cases hnode : receiver = node
          · subst hnode
            simp only [nodes_after_self, if_true]
          · simp only [nodes_after_of_ne _ _ _ (Ne.symm hnode), if_neg hnode]

/-- A node that sends a message keeps the maps that it sent with, and no other node changes. -/
theorem nodes_propagate (network : Network ν) (node sender : ν) (args : ArgSlots) (peer : UInt32)
    (msg : Message) :
    (network.propagate sender args peer msg).nodes node =
      if sender = node then (Maps.propagate { network.nodes node with args } peer msg).2.2
      else network.nodes node := by
  unfold propagate
  by_cases hnode : sender = node
  · subst hnode
    simp only [nodes_after_self, if_true]
  · rw [if_neg hnode]
    exact nodes_after_of_ne _ _ _ (Ne.symm hnode)

/-- A path that is brought to a node was in flight. -/
theorem of_brought? {arrival : Path} (h : network.brought? node traceId m = some arrival) :
    ∃ sent injection, m = .receive node sent ∧
      network.log[sent]? = some (.injected injection) ∧
      Context.read? injection.message.bytes = some (traceId, arrival) := by
  obtain ⟨⟨readId, _⟩, hframe, rfl⟩ := Option.map_eq_some_iff.mp h
  obtain ⟨hread, htrace⟩ := Option.filter_eq_some_iff.mp hframe
  obtain rfl : readId = traceId := eq_of_beq htrace
  obtain ⟨message, hdelivered, hread⟩ := Option.bind_eq_some_iff.mp hread
  cases m with
  | propagate _ _ _ _ => cases hdelivered
  | receive receiver sent =>
      simp only [delivered?] at hdelivered
      split at hdelivered
      · rename_i injection hinjected
        obtain ⟨rfl, hmessage⟩ := Option.ite_none_right_eq_some.mp hdelivered
        cases hmessage
        exact ⟨sent, injection, rfl, hinjected, hread⟩
      · cases hdelivered

/-- **One step.**  A record that is spared is overwritten by what the step brings, and else
stays. -/
theorem Spares.record?_move (h : network.Spares node traceId m)
    (hstored : network.record? node traceId = some path) :
    (network.move m).record? node traceId =
      some ((network.brought? node traceId m).getD path) := by
  unfold record? at hstored ⊢
  cases m with
  | propagate sender args peer msg =>
      have hbrought : network.brought? node traceId (.propagate sender args peer msg) = none := rfl
      rw [hbrought, Option.getD_none]
      show ((network.propagate sender args peer msg).nodes node).paths.get? traceId = some path
      rw [nodes_propagate]
      split
      · rename_i hsender
        refine Maps.get?_propagate_of_not_injected hstored fun hinjected => ?_
        exact h.unconsumed ⟨hsender, hinjected⟩
      · exact hstored
  | receive receiver sent =>
      show ((network.receive receiver sent).nodes node).paths.get? traceId = _
      rw [nodes_receive]
      unfold brought?
      cases hdelivered : network.delivered? node (.receive receiver sent) with
      | none => exact hstored
      | some message =>
          cases hread : Context.read? message.bytes with
          | none => simpa [Maps.receive, hread] using hstored
          | some frame =>
              obtain ⟨receivedId, receivedPath⟩ := frame
              have hkept : ((network.nodes node).cachePath receivedId receivedPath).1 ≠
                  .stored (some traceId) := by
                intro hevicted
                refine h.unevicted ?_
                simp only [Evicts, hdelivered, Option.bind_some, Maps.receive, hread, hevicted]
              simp only [Maps.receive_of_read? hread]
              rw [Maps.get?_cachePath_of_not_evicted hstored hkept]
              by_cases hsame : receivedId = traceId
              · simp [hread, hsame, Option.filter_some]
              · simp [hread, hsame, Option.filter_some]

/-- **A step makes a spared record shorter** exactly if it brings a shorter path. -/
theorem Spares.shrinks_iff (h : network.Spares node traceId m) {new : Path}
    (hstored : network.record? node traceId = some path)
    (hafter : (network.move m).record? node traceId = some new) :
    new.count.toNat < path.count.toNat ↔
      ∃ arrival, network.brought? node traceId m = some arrival ∧
        arrival.count.toNat < path.count.toNat := by
  have hnew : (network.brought? node traceId m).getD path = new :=
    Option.some.inj ((h.record?_move hstored).symm.trans hafter)
  cases hbrought : network.brought? node traceId m with
  | none =>
      rw [hbrought, Option.getD_none] at hnew
      subst hnew
      simp
  | some arrival =>
      rw [hbrought, Option.getD_some] at hnew
      subst hnew
      simp

/-- Moves one after the other. -/
theorem run_append (network : Network ν) (first second : List (Move ν)) :
    network.run (first ++ second) = (network.run first).run second :=
  List.foldl_append

/-- What is spared by all moves is spared by the first ones and then by the others. -/
theorem sparedBy_append {first second : List (Move ν)} :
    network.SparedBy node traceId (first ++ second) ↔
      network.SparedBy node traceId first ∧
        (network.run first).SparedBy node traceId second := by
  induction first generalizing network with
  | nil => exact (and_iff_right trivial).symm
  | cons m rest ih =>
      show _ ∧ (network.move m).SparedBy node traceId (rest ++ second) ↔ _
      rw [ih, ← and_assoc]
      rfl

/-- **A whole run.**  A record that is spared is the path of the frame that came in last, or
the record that it was. -/
theorem SparedBy.record?_run {moves : List (Move ν)} (h : network.SparedBy node traceId moves)
    (hstored : network.record? node traceId = some path) :
    (network.run moves).record? node traceId =
      some ((network.arrivals node traceId moves).getLast?.getD path) := by
  induction moves generalizing network path with
  | nil => exact hstored
  | cons m rest ih =>
      obtain ⟨hspares, hrest⟩ := h
      have hlast := ih hrest (hspares.record?_move hstored)
      rw [arrivals, List.getLast?_append]
      cases hbrought : network.brought? node traceId m with
      | none =>
          rw [hbrought] at hlast
          exact hlast.trans (by simp)
      | some arrival =>
          rw [hbrought] at hlast
          refine hlast.trans ?_
          cases ((network.move m).arrivals node traceId rest).getLast? <;> rfl

/-- The first step and the later ones shrink nothing exactly if none of all does. -/
theorem neverShrinks_cons {rest : List (Move ν)} :
    network.NeverShrinks node traceId (m :: rest) ↔
      (∀ old new, network.record? node traceId = some old →
        (network.move m).record? node traceId = some new → old.count.toNat ≤ new.count.toNat) ∧
      (network.move m).NeverShrinks node traceId rest := by
  constructor
  · intro h
    refine ⟨h [] m rest rfl, fun done next later hsplit => ?_⟩
    exact h (m :: done) next later (congrArg (m :: ·) hsplit)
  · rintro ⟨hfirst, hrest⟩ done next later hsplit
    cases done with
    | nil =>
        obtain ⟨rfl, -⟩ := List.cons.inj hsplit
        exact hfirst
    | cons _ done =>
        obtain ⟨rfl, hrests⟩ := List.cons.inj hsplit
        exact hrest done next later hrests

/-- **A spared record never shrinks** exactly if the frames of its trace come in the order of
their hop counts. -/
theorem SparedBy.neverShrinks_iff {moves : List (Move ν)}
    (h : network.SparedBy node traceId moves)
    (hstored : network.record? node traceId = some path) :
    network.NeverShrinks node traceId moves ↔
      (path :: network.arrivals node traceId moves).IsChain
        fun earlier later => earlier.count.toNat ≤ later.count.toNat := by
  induction moves generalizing network path with
  | nil => simp [NeverShrinks, arrivals]
  | cons m rest ih =>
      obtain ⟨hspares, hrest⟩ := h
      have hmoved := hspares.record?_move hstored
      rw [neverShrinks_cons, ih hrest hmoved, hstored, hmoved, arrivals]
      cases hbrought : network.brought? node traceId m <;> simp [List.isChain_cons_cons]

/-- A move leaves everything that happened before in the log. -/
theorem log_move (network : Network ν) (m : Move ν) :
    ∃ events, (network.move m).log = network.log ++ events := by
  cases m with
  | propagate node args peer msg => exact ⟨_, rfl⟩
  | receive node sent =>
      show ∃ events, (network.receive node sent).log = network.log ++ events
      unfold receive
      split
      · exact ⟨_, rfl⟩
      · exact ⟨[], (List.append_nil _).symm⟩

/-- What happened is never taken back: moves only add to the log. -/
theorem log_run (network : Network ν) (moves : List (Move ν)) :
    ∃ events, (network.run moves).log = network.log ++ events := by
  induction moves generalizing network with
  | nil => exact ⟨[], (List.append_nil _).symm⟩
  | cons m rest ih =>
      obtain ⟨first, hfirst⟩ := network.log_move m
      obtain ⟨later, hlater⟩ := ih (network.move m)
      refine ⟨first ++ later, hlater.trans ?_⟩
      rw [hfirst, List.append_assoc]

variable {service : ν → UInt8}

/-- What a move brings to a node has arrived there. -/
theorem Sound.arrived_of_brought? (h : network.Sound service) {arrival : Path}
    (hbrought : network.brought? node traceId m = some arrival) :
    Arrived service (network.move m).log node traceId arrival := by
  obtain ⟨sent, injection, rfl, hinjected, hread⟩ := of_brought? hbrought
  obtain ⟨hlt, -⟩ := List.getElem?_eq_some_iff.mp hinjected
  obtain ⟨path, hsent, stems⟩ := h.sent sent injection hinjected
  obtain ⟨rfl, rfl⟩ := Prod.mk.inj (Option.some.inj (hread.symm.trans hsent))
  have hlog : (network.move (.receive node sent)).log =
      network.log ++ [.received node sent] := by
    simp only [Network.move, Network.receive, hinjected, Network.after]
  rw [hlog]
  exact ⟨sent, network.log.length, hlt, List.getElem?_concat_length, stems.append _⟩

/-- All that some moves bring to a node has arrived there when they are made. -/
theorem Sound.arrived_of_mem_arrivals (h : network.Sound service) {moves : List (Move ν)}
    {arrival : Path} (harrival : arrival ∈ network.arrivals node traceId moves) :
    Arrived service (network.run moves).log node traceId arrival := by
  induction moves generalizing network with
  | nil => cases harrival
  | cons m rest ih =>
      rcases List.mem_append.mp harrival with hfirst | hlater
      · obtain ⟨events, hlog⟩ := (network.move m).log_run rest
        have harrived := h.arrived_of_brought? (Option.mem_toList.mp hfirst)
        show Arrived service ((network.move m).run rest).log node traceId arrival
        rw [hlog]
        exact harrived.append events
      · exact ih (h.move m) hlater

end Network

open Network

/-- **A stored path is the latest arrival.**  Let the nodes of a network have made any moves
since their caches were empty, let a node have a path stored for a trace, and let further
moves neither evict nor consume it.  All that these moves bring to the node for the trace
are paths that were sent and have arrived.  At each moment the record is the one of them that
came last, or the path from before.  A step leaves the record with fewer hops exactly if it
brings a path that counts fewer, and no step does exactly if the paths come in the order of
their hop counts. -/
theorem stored_path_is_latest_arrival [DecidableEq ν] (service : ν → UInt8)
    (capacity : ν → Option Nat) (before : List (Move ν)) {node : ν} {traceId : UInt64}
    {path : Path} {moves : List (Move ν)}
    (hstored : ((start service capacity).run before).record? node traceId = some path)
    (hspared : ((start service capacity).run before).SparedBy node traceId moves) :
    let network := (start service capacity).run before
    (∀ arrival ∈ network.arrivals node traceId moves,
      Arrived service (network.run moves).log node traceId arrival) ∧
    (∀ done rest, moves = done ++ rest → (network.run done).record? node traceId =
      some ((network.arrivals node traceId done).getLast?.getD path)) ∧
    (∀ done m rest, moves = done ++ m :: rest → ∀ old new,
      (network.run done).record? node traceId = some old →
      (network.run (done ++ [m])).record? node traceId = some new →
      (new.count.toNat < old.count.toNat ↔
        ∃ arrival, (network.run done).brought? node traceId m = some arrival ∧
          arrival.count.toNat < old.count.toNat)) ∧
    (network.NeverShrinks node traceId moves ↔
      (path :: network.arrivals node traceId moves).IsChain
        fun earlier later => earlier.count.toNat ≤ later.count.toNat) := by
  intro network
  have hsound : network.Sound service := (Sound.start service capacity).run before
  refine ⟨fun arrival => hsound.arrived_of_mem_arrivals, ?_, ?_, ?_⟩
  · rintro done rest rfl
    exact (sparedBy_append.mp hspared).1.record?_run hstored
  · rintro done m rest rfl old new hold hnew
    obtain ⟨-, hspares, -⟩ := sparedBy_append.mp hspared
    rw [run_append] at hnew
    exact hspares.shrinks_iff hold hnew
  · exact hspared.neverShrinks_iff hstored

/-- A node sends a message of a trace, with the tracing header as its first field. -/
def tracedCall (node : Nat) (trace : UInt8) : Move Nat :=
  .propagate node (.saveFound {} (UInt32.ofNat Frame.headerSize)) 0
    (.ofBytes (Frame.encode Frame.headersType (Field.tracing [0, 0, 0, 0, 0, 0, 0, trace]).encode))

/-- Node 1 calls, node 2 receives the call and goes on with one of its own, and node 3 receives
the call of node 1.  The call of node 2 is still in flight. -/
def overlappingCalls : List (Move Nat) :=
  [tracedCall 1 9, .receive 2 0, tracedCall 2 9, .receive 3 0]

/-- Node 3 sends a message of another trace and then receives the longer path of two. -/
theorem stored_path_is_latest_arrival_inOrder :
    let network := (start UInt8.ofNat fun _ => none).run overlappingCalls
    let moves := [tracedCall 3 8, .receive 3 2]
    network.record? 3 9 = some (.single 1) ∧ network.SparedBy 3 9 moves ∧
      (network.run moves).record? 3 9 = some ((Path.single 1).extend 2) ∧
      network.NeverShrinks 3 9 moves := by
  intro network moves
  have hstored : network.record? 3 9 = some (.single 1) := by decide +kernel
  have hspared : network.SparedBy 3 9 moves :=
    ⟨⟨by decide +kernel, by decide +kernel⟩, ⟨by decide +kernel, by decide +kernel⟩, trivial⟩
  have harrivals : network.arrivals 3 9 moves = [(Path.single 1).extend 2] := by decide +kernel
  obtain ⟨-, hlatest, -, horder⟩ := stored_path_is_latest_arrival UInt8.ofNat (fun _ => none)
    overlappingCalls hstored hspared
  refine ⟨hstored, hspared, ?_, horder.mpr ?_⟩
  · rw [hlatest moves [] (List.append_nil _).symm, harrivals]
    rfl
  · rw [harrivals]
    decide

/-- **A late frame makes a record shorter.**  Node 3 receives the longer path first and then
the shorter one, which was sent first.  No step evicts or consumes the record, and its hop
count falls from two to one. -/
theorem late_frame_shrinks_record :
    let network := (start UInt8.ofNat fun _ => none).run
      [tracedCall 1 9, .receive 2 0, tracedCall 2 9, .receive 3 2]
    let late : Move Nat := .receive 3 0
    network.record? 3 9 = some ((Path.single 1).extend 2) ∧
      ¬network.Evicts 3 9 late ∧ ¬network.Consumes 3 9 late ∧
      (network.move late).record? 3 9 = some (.single 1) ∧
      ¬((Path.single 1).extend 2).count.toNat ≤ (Path.single 1).count.toNat := by
  intro network late
  exact ⟨by decide +kernel, by decide +kernel, by decide +kernel, by decide +kernel, by decide⟩

end MeshTrace
