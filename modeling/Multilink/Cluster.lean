import Multilink.Node
/-!
# Clusters

Nodes and bare endpoints on one bus. `Cluster.settle` lets the nodes handle what there is to handle
until all is quiet; then the frames at the bare endpoints are collected.
-/

namespace Multilink

/-- A bare endpoint with the frames collected from it. -/
structure Probe where
  endpoint : EndpointId
  /-- The frames collected, first in first. -/
  caught : List Inbound := []
  deriving DecidableEq, Repr

/-- Nodes and bare endpoints on one bus. -/
structure Cluster where
  bus : Bus := {}
  /-- The nodes, by their numbers. -/
  nodes : List Node := []
  /-- The bare endpoints, by their numbers. -/
  probes : List Probe := []

namespace Cluster

/-- Builds the nodes in turn. -/
def addNodes : List NodePlan → Cluster → Except BuildFailure Cluster
  | [], c => .ok c
  | plan :: rest, c => do
    let (node, bus) ← Node.build plan c.bus
    addNodes rest { c with bus, nodes := c.nodes ++ [node] }

/-- Attaches bare endpoints in turn. -/
def addProbes : List (Address × Media) → Cluster → Cluster
  | [], c => c
  | (address, m) :: rest, c =>
    let (endpoint, bus) := c.bus.attach address m
    addProbes rest { c with bus, probes := c.probes ++ [{ endpoint }] }

/-- Builds the nodes of a cluster and then its bare endpoints. -/
def build (plans : List NodePlan) (probes : List (Address × Media)) :
    Except BuildFailure Cluster :=
  (addNodes plans {}).map (addProbes probes)

instance : HasStations Cluster where
  bus := Cluster.bus
  setBus bus c := { c with bus }
  station? i c := c.nodes[i]?.map (·.station)
  setStation i station c := { c with nodes := c.nodes.modify i fun n => { n with station } }
  probe? i c := c.probes[i]?.map (·.endpoint)

/-- Starts a node. -/
def start (i : Nat) : Act Cluster Unit := fun c =>
  match c.nodes[i]? with
  | none => (.error (.initFail "no such node"), c)
  | some n =>
    let (r, n) := n.start
    (r, { c with nodes := c.nodes.set i n })

/-- Shuts a node down. -/
def shutDown (i : Nat) : Act Cluster Unit :=
  Act.modify fun c => { c with nodes := c.nodes.modify i Node.shutDown }

/-- Makes the next move of the first node that has something to do, from the node with number `i`
on. -/
def moveFrom? (c : Cluster) (i : Nat) : List Node → Option Cluster
  | [] => none
  | n :: rest =>
    match ({ node := n, bus := c.bus } : NodeSite).move? with
    | some s => some { c with bus := s.bus, nodes := c.nodes.set i s.node }
    | none => c.moveFrom? (i + 1) rest

/-- Makes the next move of the first node that has something to do. -/
def move? (c : Cluster) : Option Cluster :=
  c.moveFrom? 0 c.nodes

/-- Lets the nodes act until all of them are quiet, for at most so many moves. -/
def settle : Nat → Cluster → Cluster
  | 0, c => c
  | moves + 1, c =>
    match c.move? with
    | some c => settle moves c
    | none => c

/-- Collects the frames at a bare endpoint. -/
def collectAt (c : Cluster) (i : Nat) : Cluster :=
  match c.probes[i]? with
  | none => c
  | some p =>
    let (frames, bus) := c.bus.poll p.endpoint
    { c with bus, probes := c.probes.set i { p with caught := p.caught ++ frames } }

/-- Collects the frames at every bare endpoint. -/
def collect (c : Cluster) : Cluster :=
  (List.range c.probes.length).foldl collectAt c

/-- Do all nodes run? -/
def allRun (c : Cluster) : Bool :=
  c.nodes.all (·.running)

/-- Lets the nodes act, and collects the frames at the bare endpoints if all nodes run. -/
def pass (moves : Nat) (c : Cluster) : Cluster :=
  let c := c.settle moves
  if c.allRun then c.collect else c

/-- Takes the frames that have come to a bare endpoint. -/
def takeCaught (i : Nat) : Act Cluster (List Inbound) := fun c =>
  let c := c.collectAt i
  (.ok ((c.probes[i]?.map (·.caught)).getD []),
    { c with probes := c.probes.modify i fun p => { p with caught := [] } })

end Cluster

end Multilink
