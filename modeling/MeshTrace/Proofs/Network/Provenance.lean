import MeshTrace.Proofs.Frame.Context
import MeshTrace.Proofs.Network.Basic
import MeshTrace.Proofs.Path
import MeshTrace.Proofs.PathCache.Lookup

/-!
# Where paths come from

A path is the list of the services that the calls of its trace went through, however
messages were delayed, repeated, overtaken or lost.  `Chain` says what that means on
the log of a network: a chain starts where a node sent a message without a path of
the trace, and it goes on where a node sent a message after it had received the last
message of the chain.

The invariant `Sound` says of every path in a cache and in flight that it `Stems` from
the end of a chain.  A move only appends to the log, so older chains stay chains
(`Chain.append`), and each kind of move keeps the invariant (`Sound.propagate`,
`Sound.receive`).  All reachable networks are sound (`paths_have_provenance`).
-/

namespace MeshTrace

variable {ν : Type}

/-- **A chain of injections of one trace.**  It ends with the one at the place `time`
of the log, and `services` are the services it went through, newest first. -/
inductive Chain (service : ν → UInt8) (log : List (NetworkEvent ν)) (traceId : UInt64) :
    (time : Nat) → (services : List UInt8) → Prop
  | first {time : Nat} {injection : Injection ν}
      (hinjected : log[time]? = some (.injected injection))
      (htrace : injection.traceId = traceId) (hfound : injection.found = none) :
      Chain service log traceId time [service injection.node]
  | next {sent received time : Nat} {services : List UInt8} {injection : Injection ν}
      (chain : Chain service log traceId sent services)
      (hsent : sent < received) (hreceived : log[received]? = some (.received injection.node sent))
      (hlater : received < time) (hinjected : log[time]? = some (.injected injection))
      (htrace : injection.traceId = traceId) :
      Chain service log traceId time (service injection.node :: services)

/-- The path is canonical and lists the newest services of a chain that ends at the
place `time` of the log. -/
structure Stems (service : ν → UInt8) (log : List (NetworkEvent ν)) (traceId : UInt64) (path : Path)
    (time : Nat) : Prop where
  canonical : path.Canonical
  chain : ∃ services, Chain service log traceId time services ∧
    path.hops = services.take maxHops

/-- The node received the path in a message in flight. -/
def Arrived (service : ν → UInt8) (log : List (NetworkEvent ν)) (node : ν) (traceId : UInt64)
    (path : Path) : Prop :=
  ∃ sent received, sent < received ∧ log[received]? = some (.received node sent) ∧
    Stems service log traceId path sent

/-- Every path has a provenance: each cached one has arrived, and each one in flight
stems from the injection that sent it. -/
structure Network.Sound (service : ν → UInt8) (network : Network ν) : Prop where
  identity : ∀ node, (network.nodes node).service.get? = some (service node)
  stored : ∀ node traceId path, (network.nodes node).paths.get? traceId = some path →
    Arrived service network.log node traceId path
  sent : ∀ time injection, network.log[time]? = some (.injected injection) →
    ∃ path, Context.read? injection.message.bytes = some (injection.traceId, path) ∧
      Stems service network.log injection.traceId path time

variable {service : ν → UInt8} {log : List (NetworkEvent ν)} {traceId : UInt64} {path : Path}

/-- What happened stays in its place. -/
theorem getElem?_append_of_eq_some {events : List (NetworkEvent ν)} {place : Nat}
    {event : NetworkEvent ν} (h : log[place]? = some event) :
    (log ++ events)[place]? = some event := by
  obtain ⟨hlt, -⟩ := List.getElem?_eq_some_iff.mp h
  rw [List.getElem?_append_left hlt]
  exact h

/-- What is in a longer log happened just now or before. -/
theorem getElem?_concat_cases {place : Nat} {event last : NetworkEvent ν}
    (h : (log ++ [last])[place]? = some event) :
    log[place]? = some event ∨ (place = log.length ∧ event = last) := by
  rcases Nat.lt_or_ge place log.length with hlt | hge
  · rw [List.getElem?_append_left hlt] at h
    exact Or.inl h
  · rw [List.getElem?_append_right hge, List.getElem?_singleton] at h
    split at h
    · refine Or.inr ⟨by omega, (Option.some.inj h).symm⟩
    · cases h

/-- A chain stays a chain whatever happens later. -/
theorem Chain.append {time : Nat} {services : List UInt8}
    (chain : Chain service log traceId time services) (events : List (NetworkEvent ν)) :
    Chain service (log ++ events) traceId time services := by
  induction chain with
  | first hinjected htrace hfound =>
      exact .first (getElem?_append_of_eq_some hinjected) htrace hfound
  | next _ hsent hreceived hlater hinjected htrace ih =>
      exact .next ih hsent (getElem?_append_of_eq_some hreceived) hlater
        (getElem?_append_of_eq_some hinjected) htrace

/-- Where a path stems from does not change with what happens later. -/
theorem Stems.append {time : Nat} (stems : Stems service log traceId path time)
    (events : List (NetworkEvent ν)) : Stems service (log ++ events) traceId path time := by
  obtain ⟨canonical, services, chain, hops⟩ := stems
  exact ⟨canonical, services, chain.append events, hops⟩

/-- What arrived at a node has arrived whatever happens later. -/
theorem Arrived.append {node : ν} (arrived : Arrived service log node traceId path)
    (events : List (NetworkEvent ν)) : Arrived service (log ++ events) node traceId path := by
  obtain ⟨sent, received, hsent, hreceived, stems⟩ := arrived
  exact ⟨sent, received, hsent, getElem?_append_of_eq_some hreceived, stems.append events⟩

/-- **A first hop.**  A path of the sender alone stems from an injection that found
no path. -/
theorem Stems.single {injection : Injection ν} (hfound : injection.found = none) :
    Stems service (log ++ [.injected injection]) injection.traceId
      (.single (service injection.node)) log.length where
  canonical := Path.canonical_single _
  chain := ⟨[service injection.node], .first List.getElem?_concat_length rfl hfound,
    Path.hops_single _⟩

/-- **A further hop.**  An extended path stems from the injection that extended it, by
one step more than the chain it arrived by. -/
theorem Stems.extend {injection : Injection ν} {cached : Path}
    (arrived : Arrived service log injection.node injection.traceId cached) :
    Stems service (log ++ [.injected injection]) injection.traceId
      (cached.extend (service injection.node)) log.length := by
  obtain ⟨sent, received, hsent, hreceived, -, services, chain, hops⟩ := arrived
  obtain ⟨hlater, -⟩ := List.getElem?_eq_some_iff.mp hreceived
  refine ⟨cached.canonical_extend _, service injection.node :: services, ?_, ?_⟩
  · exact .next (chain.append _) hsent (getElem?_append_of_eq_some hreceived) hlater
      List.getElem?_concat_length rfl
  · rw [Path.hops_extend, hops]
    unfold maxHops
    rw [List.take_succ_cons, List.take_succ_cons, List.take_take]
    rfl

/-- The path that goes out next stems from the injection that sends it. -/
theorem Stems.nextPath {maps : Maps} {injection : Injection ν}
    (hfound : injection.found = maps.paths.get? injection.traceId)
    (harrived : ∀ cached, maps.paths.get? injection.traceId = some cached →
      Arrived service log injection.node injection.traceId cached) :
    Stems service (log ++ [.injected injection]) injection.traceId
      (Propagation.nextPath maps (service injection.node) injection.traceId) log.length := by
  rcases Propagation.nextPath_cases maps (service injection.node) injection.traceId with
    ⟨hnone, hsingle⟩ | ⟨cached, hsome, hextend⟩
  · rw [hsingle]
    exact .single (hfound.trans hnone)
  · rw [hextend]
    exact .extend (harrived cached hsome)

namespace Network.Sound

/-- Nothing is cached or in flight at the start. -/
theorem start (service : ν → UInt8) (capacity : ν → Option Nat) :
    (Network.start service capacity).Sound service where
  identity _ := rfl
  stored node traceId path h := by
    rw [Network.start, Table.get?_empty] at h
    cases h
  sent time injection h := by
    rw [Network.start, List.getElem?_nil] at h
    cases h

variable [DecidableEq ν] {network : Network ν}

/-- **One node changes.**  The network stays sound if the node keeps its service, each
of its paths has arrived by now, and so does each message that is new in flight. -/
theorem after (h : network.Sound service) {node : ν} {maps : Maps}
    {events : List (NetworkEvent ν)}
    (hservice : maps.service = (network.nodes node).service)
    (hstored : ∀ traceId path, maps.paths.get? traceId = some path →
      Arrived service (network.log ++ events) node traceId path)
    (hsent : ∀ time injection, (network.log ++ events)[time]? = some (.injected injection) →
      network.log[time]? = some (.injected injection) ∨
        ∃ path, Context.read? injection.message.bytes = some (injection.traceId, path) ∧
          Stems service (network.log ++ events) injection.traceId path time) :
    (network.after node maps events).Sound service where
  identity other := by
    by_cases hother : other = node
    · subst hother
      rw [nodes_after_self, hservice]
      exact h.identity other
    · rw [nodes_after_of_ne _ _ _ hother]
      exact h.identity other
  stored other traceId path hget := by
    by_cases hother : other = node
    · subst hother
      rw [nodes_after_self] at hget
      exact hstored traceId path hget
    · rw [nodes_after_of_ne _ _ _ hother] at hget
      exact (h.stored other traceId path hget).append events
  sent time injection hinjected := by
    rcases hsent time injection hinjected with hold | hnew
    · obtain ⟨path, hread, stems⟩ := h.sent time injection hold
      exact ⟨path, hread, stems.append events⟩
    · exact hnew

/-- A node that keeps its service and gets no new path leaves the network sound. -/
theorem after_nil (h : network.Sound service) {node : ν} {maps : Maps}
    (hservice : maps.service = (network.nodes node).service)
    (hpaths : maps.paths = (network.nodes node).paths) :
    (network.after node maps []).Sound service := by
  refine h.after hservice ?_ ?_
  · intro traceId path hget
    rw [hpaths] at hget
    exact (h.stored node traceId path hget).append []
  · intro time injection hinjected
    rw [List.append_nil] at hinjected
    exact Or.inl hinjected

open Propagation

/-- **Sending keeps the network sound.**  A message without a frame changes no path.
A message with one carries a path by this service alone or the cached path extended
by it, and takes the cached path away. -/
theorem after_propagated (h : network.Sound service) {node : ν} {maps maps' : Maps}
    {peer : UInt32} {msg message : Message} {outcome : Propagation}
    (hend : Propagated maps peer msg (outcome, message, maps'))
    (hservice : maps.service = (network.nodes node).service)
    (hpaths : maps.paths = (network.nodes node).paths) :
    (network.after node maps' (sendEvents node maps message outcome)).Sound service := by
  cases hend with
  | unread => exact h.after_nil hservice hpaths
  | stopped _ | aborted _ _ _ =>
      exact h.after_nil ((service_trackNewName ..).trans hservice)
        ((paths_trackNewName ..).trans hpaths)
  | @injected offset lead rawId self _ reads hroom hbytes =>
      -- The service's id is read from its cell, which still holds the node's own one.
      have hself : self = service node := by
        have hread := reads.service
        rw [hservice, h.identity node] at hread
        exact (Option.some.inj hread).symm
      subst hself
      have harrived : ∀ traceId cached, maps.paths.get? traceId = some cached →
          Arrived service network.log node traceId cached := by
        rw [hpaths]
        exact h.stored node
      refine h.after ((service_trackNewName ..).trans hservice) ?_ ?_
      · intro traceId path hget
        exact (harrived traceId path (Table.get?_of_get?_erase hget).2).append _
      · intro time injection hinjected
        rcases getElem?_concat_cases hinjected with hold | ⟨rfl, hlast⟩
        · exact Or.inl hold
        · cases hlast
          refine Or.inr ⟨nextPath maps (service node) (traceIdOf rawId), ?_, ?_⟩
          · rw [hbytes]
            exact reads.read?_nextFrame msg.bytes
          · exact .nextPath rfl (harrived _)

/-- **Receiving keeps the network sound.**  The only new path is the one that was read
from a message in flight, as it was sent. -/
theorem receive (h : network.Sound service) (node : ν) (sent : Nat) :
    (network.receive node sent).Sound service := by
  unfold Network.receive
  split
  · rename_i injection hinjected
    obtain ⟨path, hread, stems⟩ := h.sent sent injection hinjected
    obtain ⟨hlt, -⟩ := List.getElem?_eq_some_iff.mp hinjected
    rw [Maps.receive_of_read? hread]
    refine h.after (Maps.service_cachePath ..) ?_ ?_
    · intro traceId found hget
      rcases Maps.get?_cachePath_cases hget with ⟨rfl, rfl⟩ | hold
      · exact ⟨sent, network.log.length, hlt, List.getElem?_concat_length, stems.append _⟩
      · exact (h.stored node traceId found hold).append _
    · intro time other hother
      rcases getElem?_concat_cases hother with hold | ⟨-, hlast⟩
      · exact Or.inl hold
      · cases hlast
  · exact h

/-- Every move keeps the network sound. -/
theorem move (h : network.Sound service) (m : Move ν) : (network.move m).Sound service := by
  cases m with
  | propagate node args peer msg =>
      have hend := Maps.propagate_propagated { network.nodes node with args } peer msg
      exact h.after_propagated hend rfl rfl
  | receive node sent => exact h.receive node sent

/-- Every history of moves keeps the network sound. -/
theorem run (h : network.Sound service) (moves : List (Move ν)) :
    (network.run moves).Sound service := by
  induction moves generalizing network with
  | nil => exact h
  | cons m rest ih => exact ih (h.move m)

end Network.Sound

/-- **Every path has a provenance.**  Whatever the nodes of a network have sent and
received since their caches were empty, in whatever order: a cached path has arrived
in a message, and a message in flight reads as the trace id and a path of its
injection.  Each of these paths is canonical and lists the newest `maxHops` services
of a chain of injections of that trace, each of which was sent by a node that had
received the one before. -/
theorem paths_have_provenance [DecidableEq ν] (service : ν → UInt8)
    (capacity : ν → Option Nat) (moves : List (Move ν)) :
    let network := (Network.start service capacity).run moves
    (∀ node traceId path, (network.nodes node).paths.get? traceId = some path →
      Arrived service network.log node traceId path) ∧
    ∀ time injection, network.log[time]? = some (.injected injection) →
      ∃ path, Context.read? injection.message.bytes = some (injection.traceId, path) ∧
        Stems service network.log injection.traceId path time := by
  intro network
  have hsound : network.Sound service := (Network.Sound.start service capacity).run moves
  exact ⟨hsound.stored, hsound.sent⟩

/-- Two calls make a path of two hops. -/
example :
    let msg := Message.ofBytes (Frame.encode Frame.headersType
      (Field.encodeAll [.tracing [1, 2, 3, 4, 5, 6, 7, 8, 9]]))
    let args := ArgSlots.saveFound {} (UInt32.ofNat Frame.headerSize)
    let network := (Network.start UInt8.ofNat fun _ => none).run
      [.propagate 1 args 0 msg, .receive 2 0, .propagate 2 args 0 msg, .receive 3 2]
    ((network.nodes 3).paths.get? 0x0102030405060708).map (·.hops) = some [2, 1] := by
  decide +kernel

end MeshTrace
