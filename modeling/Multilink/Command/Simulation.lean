import Multilink.Cluster
import Multilink.Command.Outcome
import Multilink.Command.Request
import Multilink.Text.Columns
import Multilink.Text.Duration
import Multilink.Text.Places
/-!
# The simulation of two nodes

A node with the settings of the configuration sends requests to a peer, over a CAN link and a short
radio link in memory, and tells how each was answered. Between two steps the nodes handle all there
is to handle, so that every answer has come before the next request is sent.
-/

namespace Multilink.Simulation

/-- The media of both nodes. -/
def media : List Media :=
  [.busCan, .radioShort]

/-- The number of moves after which two nodes are surely quiet. -/
def patience : Nat := 1000000

/-- How the peer answers: a request by an acknowledgement with its first field. -/
def acknowledge (m : Message) : Option Bytes :=
  if m.kind = .request then
    some (Fields.join [Fields.text "ack", Fields.text ((m.fieldText? 0).getD "")])
  else none

/-- The node that sends the requests. -/
def sender (settings : Settings) : NodePlan where
  settings := settings
  outlets := media.map .link
  alarmed := false
  application := some fun _ => none

/-- The peer. -/
def responder (settings : Settings) (address : Address) : NodePlan where
  settings :=
    { settings with
      node := { settings.node with name := "sdp-sim-peer", address := address.text } }
  outlets := media.map .link
  application := some acknowledge

/-- A step of a dispatcher: of the node by the number zero, of the peer by one. -/
def onDispatcher {α : Type} (i : Nat) (x : Wiring Ether → Act (Dispatcher Ether) α) :
    Act Cluster α :=
  HasStations.onDispatcher i x

/-- The nodes handle all there is to handle; these messages have come to the node. -/
def settle : Act Cluster (List Message) := do
  Act.modify (Cluster.settle patience)
  HasStations.onStation 0 Site.unread

/-- Makes the nodes known to each other and starts them. Then the faults of the plan begin. -/
def prepare (settings : Settings) (own peer : Address) (plan : SimulationPlan) :
    Act Cluster Handle := do
  let remote ← onDispatcher 0 fun _ => Dispatcher.provision "sim-peer" peer (.ofList media)
  let _ ← onDispatcher 1 fun _ => Dispatcher.provision settings.node.name own (.ofList media)
  Cluster.start 0
  Cluster.start 1
  HasStations.onStation 0 <| Act.modify fun s =>
    let can := s.station.links.head?.getD 0
    { s with
      bus := s.bus.update can
        (.set { failNext := some plan.failures, linkDown := some plan.linkDown }) }
  pure remote

/-- The line about an alignment with the windows of the peer. -/
def alignmentLine : Alignment → String
  | .aligned slept awake =>
    "Aligned with peer: slept " ++ Duration.text slept.toNat ++ ", peer awake for "
      ++ Duration.text awake.toNat
  | .noAnswer slept => "Peer never answered, slept " ++ Duration.text slept

/-- The peer begins a window, and the node sleeps until the next one. -/
def align (remote : Handle) : Act Cluster (List String) := do
  HasStations.onStation 1 (Site.onOrchestrator fun o => ((), o.startWindow))
  let a ← HasStations.giveControl 0 remote (Cluster.settle patience)
  pure [alignmentLine a]

/-- The line about an answer. -/
def answerLine (m : Message) : String :=
  (m.fieldText? 1).getD "?" ++ " via " ++ (m.media.map Media.name).getD "?"

/-- Sends the request with this number: the line about it, and whether it was answered. -/
def request (remote : Handle) (i : Nat) : Act Cluster (String × Bool) := do
  let number := "#" ++ Columns.left 3 (Numeral.decimal i) ++ " "
  let payload := Fields.join [Fields.text ("msg-" ++ Numeral.decimal i)]
  let started ← Act.attempt <| onDispatcher 0 fun w =>
    Dispatcher.startConversation w remote .request "simulate" payload
  match started with
  | .error e => pure (number ++ "send failed: " ++ e.message, false)
  | .ok id =>
    let conversation := "conv " ++ Columns.left 5 (Numeral.decimal id.toNat) ++ " -> "
    match ← settle with
    | m :: _ => pure (number ++ conversation ++ answerLine m, true)
    | [] => pure (number ++ conversation ++ "no reply", false)

/-- Sends requests from this number on. -/
def requests (remote : Handle) (first : Nat) : Nat → Act Cluster (List (String × Bool))
  | 0 => pure []
  | count + 1 => do
    let line ← request remote first
    let others ← requests remote (first + 1) count
    pure (line :: others)

/-- Sends a priority message: the line about its receipt. -/
def alarm (remote : Handle) : Act Cluster String := do
  let _ ← onDispatcher 0 fun w =>
    Dispatcher.send w remote .priority 0 (Fields.join [Fields.text "alarm"])
  match ← settle with
  | m :: _ => pure ("Priority receipt: crc 0x" ++ Bytes.toHex ((m.field? 0).getD []))
  | [] => pure "Priority receipt: none"

/-- A row of the report on links. -/
def row (name score rate history : String) : String :=
  name ++ " " ++ Columns.right 8 score ++ " " ++ Columns.right 14 rate ++ " "
    ++ Columns.right 8 history

/-- The row about a medium. -/
def linkRow (m : Media) (s : LinkStats Score) : String :=
  row m.name ((s.lastScore.map (Places.decimal 1)).getD "-") (Places.decimal 2 s.history.average)
    (Numeral.decimal s.history.size)

/-- The report on the links to the peer. -/
def linkReport (remote : Handle) : Act Cluster (List String) := do
  let d ← onDispatcher 0 fun _ => do
    let d ← Act.get
    pure d.counters
  let peer ← HasStations.onStation 0 (Site.onPeers (PeerStore.snapshot remote))
  pure
    (["Sent: " ++ Numeral.decimal d.sent ++ "  Send failures: " ++ Numeral.decimal d.sendFailures
        ++ "  Received: " ++ Numeral.decimal d.received,
      "",
      row (Columns.left 12 "MEDIA") "SCORE" "FAILURE RATE" "HISTORY"]
      ++ peer.media.toList.filterMap fun m => (peer.stats.get m).map (linkRow m))

/-- What is printed before the requests. -/
def prologue (remote : Handle) (plan : SimulationPlan) : Act Cluster (List String) :=
  if plan.orchestrate then align remote else pure []

/-- What is printed after the requests: the receipt, how many were answered, and the links. -/
def epilogue (remote : Handle) (plan : SimulationPlan) (answered : Nat) :
    Act Cluster (List String) := do
  let receipt ← if plan.priority then (fun line => [line]) <$> alarm remote else pure []
  let links ← linkReport remote
  pure
    (receipt
      ++ ["", "Replies: " ++ Numeral.decimal answered ++ "/" ++ Numeral.decimal plan.messages]
      ++ links)

/-- What is printed before the epilogue, with the number of requests that were answered. -/
def exchange (remote : Handle) (plan : SimulationPlan) : Act Cluster (List String × Nat) := do
  let first ← prologue remote plan
  let lines ← requests remote 0 plan.messages
  pure (first ++ lines.map (·.1), lines.countP (·.2))

/-- A simulation from its start: the lines printed, and the error that ends it, if there is one. -/
def perform (settings : Settings) (own peer : Address) (plan : SimulationPlan) (c : Cluster) :
    List String × Option Error :=
  match (prepare settings own peer plan).run c with
  | (.error e, _) => ([], some e)
  | (.ok remote, c) =>
    match (exchange remote plan).run c with
    | (.error e, _) => ([], some e)
    | (.ok (lines, answered), c) =>
      match (epilogue remote plan answered).run c with
      | (.error e, _) => (lines, some e)
      | (.ok more, _) => (lines ++ more, none)

/-- The outcome of a simulation. -/
def run (settings : Settings) (plan : SimulationPlan) : Outcome :=
  match Address.read? plan.peerAddress, settings.address with
  | none, _ => .ofLines [] (some (.address plan.peerAddress))
  | some _, .error e => .ofLines [] (some (.node e))
  | some peer, .ok own =>
    if own = peer then .ofLines [] (some (.ownAddress own))
    else
      match Cluster.build [sender settings, responder settings peer] [] with
      | .error (.refused e) => .ofLines [] (some (.node e))
      | .error .panicked => .panic
      | .ok c =>
        let (lines, e) := perform settings own peer plan c
        .ofLines lines (e.map .node)

end Multilink.Simulation
