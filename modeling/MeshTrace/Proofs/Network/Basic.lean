import MeshTrace.PathCache
import MeshTrace.Propagation
import Mathlib.Logic.Function.Basic

/-!
# A network of services

Any number of nodes, each with a service of its own, send messages on and receive
what others sent.  Everything that happened is kept in a log, and a message in flight
is named by its place in the log: it can be received at any later time, by any node,
any number of times, or never.

* `Network.propagate` — a node sends a message, whatever its argument slots point at;
  if the context frame goes in front, the message is in flight from then on.
* `Network.receive` — a node receives a message in flight.
* `Network.run` — the nodes make their moves in any order.
-/

namespace MeshTrace

/-- A message that a node sent with a context frame in front. -/
structure Injection (ν : Type) where
  node : ν
  traceId : UInt64
  /-- The cached path that the node found for the trace. -/
  found : Option Path
  message : Message

/-- What is worth remembering about a network. -/
inductive NetworkEvent (ν : Type) where
  | injected (injection : Injection ν)
  /-- A node received the message that was sent at the place `sent` of the log. -/
  | received (node : ν) (sent : Nat)

/-- The nodes of a network and what happened there, oldest first. -/
structure Network (ν : Type) where
  nodes : ν → Maps
  log : List (NetworkEvent ν)

/-- What a node can do. -/
inductive Move (ν : Type) where
  | propagate (node : ν) (args : ArgSlots) (peer : UInt32) (msg : Message)
  | receive (node : ν) (sent : Nat)

namespace Network

variable {ν : Type}

/-- The network in which nothing happened.  The caches are empty and the rings fresh. -/
def start (service : ν → UInt8) (capacity : ν → Option Nat) : Network ν where
  nodes node :=
    { paths := .empty (capacity node)
      service := .holding (service node) }
  log := []

variable [DecidableEq ν]

/-- A node is now as `maps` says, and `events` have happened. -/
def after (network : Network ν) (node : ν) (maps : Maps) (events : List (NetworkEvent ν)) :
    Network ν where
  nodes := Function.update network.nodes node maps
  log := network.log ++ events

@[simp] theorem nodes_after_self (network : Network ν) (node : ν) (maps : Maps)
    (events : List (NetworkEvent ν)) : (network.after node maps events).nodes node = maps :=
  Function.update_self ..

/-- The nodes that did not move have their old maps. -/
theorem nodes_after_of_ne (network : Network ν) {node other : ν} (maps : Maps)
    (events : List (NetworkEvent ν)) (h : other ≠ node) :
    (network.after node maps events).nodes other = network.nodes other :=
  Function.update_of_ne h ..

/-- What is remembered of a node that sent `message` with the maps it had before: an
injection, if the context frame went in front. -/
def sendEvents (node : ν) (maps : Maps) (message : Message) :
    Propagation → List (NetworkEvent ν)
  | .injected traceId _ =>
    [.injected { node, traceId, found := maps.paths.get? traceId, message }]
  | .pass | .aborted _ => []

/-- A node sends a message on. -/
def propagate (network : Network ν) (node : ν) (args : ArgSlots) (peer : UInt32)
    (msg : Message) : Network ν :=
  let maps := { network.nodes node with args }
  let (outcome, message, maps') := maps.propagate peer msg
  network.after node maps' (sendEvents node maps message outcome)

/-- A node receives a message, if there is one in flight at that place of the log. -/
def receive (network : Network ν) (node : ν) (sent : Nat) : Network ν :=
  match network.log[sent]? with
  | some (.injected injection) =>
    network.after node ((network.nodes node).receive injection.message.bytes).2
      [.received node sent]
  | _ => network

/-- One move of one node. -/
def move (network : Network ν) : Move ν → Network ν
  | .propagate node args peer msg => network.propagate node args peer msg
  | .receive node sent => network.receive node sent

/-- The network after some moves, the first one first. -/
def run (network : Network ν) (moves : List (Move ν)) : Network ν :=
  moves.foldl move network

end Network

end MeshTrace
