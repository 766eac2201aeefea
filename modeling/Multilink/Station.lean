import Multilink.Bus
import Multilink.Dispatcher.Receive
/-!
# Stations

A station is a dispatcher with its links on a bus. Its application queue is emptied by hand: `drain`
takes what is queued, and the station remembers all it ever took, so that replies can refer to it.

The bus is shared with other stations, so a station acts as part of a `Site`, which pairs it with
the bus for one step.
-/

namespace Multilink

/-- A priority message, as its handler found it. -/
structure Alarm where
  message : Message
  /-- The number of frames that the links of the station had sent by then. -/
  framesSent : Nat
  deriving DecidableEq, Repr

/-- What the drivers and the priority handler of a station act on. -/
structure Ether where
  bus : Bus
  /-- The priority messages handled, first in first. -/
  alarms : List Alarm := []

/-- A driver of a station, by the media that it carries. -/
inductive Outlet where
  /-- One endpoint for one medium. -/
  | link (m : Media)
  /-- One driver over endpoints for several media. -/
  | bundle (ms : List Media)
  /-- No endpoint: frames vanish, and none arrive. -/
  | sink (m : Media)
  deriving DecidableEq, Repr

namespace Outlet

/-- The media that the endpoints of an outlet are for. -/
def media : Outlet → List Media
  | link m => [m]
  | bundle ms => ms
  | sink _ => []

/-- The name of the medium that an outlet stands for: the first of several. -/
def name : Outlet → String
  | link m | sink m => m.name
  | bundle ms => (ms.head?.map Media.name).getD ""

/-- The driver of an outlet over its endpoints. -/
def driver : Outlet → List EndpointId → Driver Bus
  | link m, [i] => Bus.driver i m
  | sink m, _ => Driver.sink m
  | outlet, endpoints => Bus.bundle (endpoints.zip outlet.media)

/-- Attaches an endpoint for each of these media, and returns their names. -/
def attachAll (address : Address) : List Media → Bus → List EndpointId × Bus
  | [], bus => ([], bus)
  | m :: rest, bus =>
    let (i, bus) := bus.attach address m
    let (is, bus) := attachAll address rest bus
    (i :: is, bus)

/-- Attaches the endpoints of some outlets, outlet by outlet. -/
def attachEach (address : Address) : List Outlet → Bus → List (Outlet × List EndpointId) × Bus
  | [], bus => ([], bus)
  | outlet :: rest, bus =>
    let (endpoints, bus) := attachAll address outlet.media bus
    let (attached, bus) := attachEach address rest bus
    ((outlet, endpoints) :: attached, bus)

end Outlet

/-- What a station is built from. -/
structure StationPlan where
  /-- The address on every medium. -/
  address : Address
  /-- The name announced in handshakes. -/
  name : String := "sdp-node"
  /-- The number of peers that there is room for. -/
  peerCapacity : Nat := 16
  /-- The memory that there is for them. -/
  memory : Memory := {}
  /-- The settings of the application queue. -/
  queue : QueueSettings := {}
  /-- The number of attempts to send a message. -/
  attempts : Nat := 4
  /-- The version announced in handshakes. -/
  version : Version := .current
  /-- The time at which the clock begins. -/
  clock : Micros := 1000000
  /-- The outlets, first choice first. -/
  outlets : List Outlet
  /-- The filters; of two for the same kind the later counts. -/
  filters : List (Kind × Filter) := []
  /-- Are priority messages handled? -/
  alarmed : Bool := true
  /-- The timings of the awake windows. -/
  timings : Timings := {}
  /-- What the hook before a sleep answers in turn, if there is one. -/
  hook : Option (List HookAnswer) := none

/-- A dispatcher with its links on a bus. -/
structure Station where
  /-- The wiring of the dispatcher. -/
  wiring : Wiring Ether
  /-- The endpoints of each outlet. -/
  outlets : List (List EndpointId)
  /-- The dispatcher, with the priority messages handled. -/
  core : Dispatcher (List Alarm)
  /-- What the hook before a sleep answers in turn, if there is one. -/
  hook : Option (List HookAnswer)
  /-- The messages that the application has taken, first in first. -/
  taken : List Message := []
  /-- How many of these have been shown. -/
  shown : Nat := 0

namespace Station

/-- All endpoints of a station. -/
def links (s : Station) : List EndpointId :=
  s.outlets.flatten

/-- The number of frames that some endpoints have sent. -/
def framesSent (endpoints : List EndpointId) (bus : Bus) : Nat :=
  endpoints.foldl (fun n i => n + (bus.traffic i).framesSent) 0

/-- The priority handler of a station: it notes the message. -/
def noteAlarm (links : List EndpointId) (m : Message) (e : Ether) : Ether :=
  { e with alarms := e.alarms ++ [⟨m, framesSent links e.bus⟩] }

/-- A driver on the bus as a driver of a station. -/
def onBus (d : Driver Bus) : Driver Ether :=
  Driver.onPart Ether.bus (fun e bus => { e with bus }) d

/-- The wiring of a station over the outlets that have been attached. -/
def wire (plan : StationPlan) (attached : List (Outlet × List EndpointId)) : Wiring Ether where
  name := plan.name
  attempts := plan.attempts
  version := plan.version
  drivers := attached.map fun (outlet, endpoints) => onBus (outlet.driver endpoints)
  filters := plan.filters
  onPriority := if plan.alarmed then some (noteAlarm (attached.flatMap (·.2))) else none

/-- A station as it begins, with these peers, over the outlets that have been attached. -/
def fresh (plan : StationPlan) (peers : PeerStore) (attached : List (Outlet × List EndpointId)) :
    Station where
  wiring := wire plan attached
  outlets := attached.map (·.2)
  core :=
    { peers
      queue := { settings := plan.queue }
      orchestrator := .make plan.timings plan.clock
      world := [] }
  hook := plan.hook

/-- Builds a station and attaches its endpoints. -/
def build (plan : StationPlan) (bus : Bus) : Except BuildFailure (Station × Bus) := do
  let peers ← PeerStore.allocate plan.memory plan.address plan.peerCapacity
  let (attached, bus) := Outlet.attachEach plan.address plan.outlets bus
  let station := fresh plan peers attached
  station.wiring.check.mapError .refused
  pure (station, bus)

end Station

/-- A station with the bus that its links are on. -/
structure Site where
  station : Station
  bus : Bus

namespace Site

variable {α : Type}

/-- A step of the dispatcher, with the bus as part of its world. -/
def dispatch (x : Wiring Ether → Act (Dispatcher Ether) α) : Act Site α := fun s =>
  let d := s.station.core.inWorld { bus := s.bus, alarms := s.station.core.world }
  let (r, d) := x s.station.wiring d
  (r, { station := { s.station with core := d.inWorld d.world.alarms }, bus := d.world.bus })

/-- A step on the peers. -/
def onPeers (x : Act PeerStore α) : Act Site α :=
  dispatch fun _ => Dispatcher.onPeers x

/-- A step of the orchestrator, which cannot fail. -/
def onOrchestrator (f : Orchestrator → α × Orchestrator) : Act Site α := fun s =>
  let (a, orchestrator) := f s.station.core.orchestrator
  (.ok a, { s with station := { s.station with core := { s.station.core with orchestrator } } })

/-- Takes the frames that wait at an endpoint. -/
def poll (i : EndpointId) : Act Site (List Inbound) := fun s =>
  let (frames, bus) := s.bus.poll i
  (.ok frames, { s with bus })

/-- Hands frames to the dispatcher in turn, and tells what came of each. -/
def receiveAll : List Inbound → Act Site (List (Inbound × Except Error Unit))
  | [] => pure []
  | f :: rest => do
    let r ← Act.attempt (dispatch fun w => Dispatcher.receive w f)
    let others ← receiveAll rest
    pure ((f, r) :: others)

/-- Polls some endpoints in turn and hands all frames to the dispatcher. -/
def pumpFrom : List EndpointId → Act Site (List (Inbound × Except Error Unit))
  | [] => pure []
  | i :: rest => do
    let frames ← poll i
    let received ← receiveAll frames
    let others ← pumpFrom rest
    pure (received ++ others)

/-- Polls every endpoint of the station in turn and hands all frames to the dispatcher. -/
def pump : Act Site (List (Inbound × Except Error Unit)) := do
  let s ← Act.get
  pumpFrom s.station.links

/-- Lets the application take a message. -/
def keep (m : Message) : Act Site Unit :=
  Act.modify fun s => { s with station := { s.station with taken := s.station.taken ++ [m] } }

/-- The messages taken since this was last asked. -/
def unread : Act Site (List Message) := fun s =>
  (.ok (s.station.taken.drop s.station.shown),
    { s with station := { s.station with shown := s.station.taken.length } })

/-- Replaces the application queue. -/
def setQueue (queue : WorkQueue Message) : Act Site Unit :=
  Act.modify fun s => { s with station := { s.station with core := { s.station.core with queue } } }

/-- Lets the application take every queued message, unless the queue has been shut down. -/
def drain : Act Site (Option (List Message)) := do
  let s ← Act.get
  let queue := s.station.core.queue
  if queue.closed then pure none
  else
    setQueue { queue with items := [], processed := queue.processed + queue.items.length }
    queue.items.forM keep
    some <$> unread

/-- The priority messages handled since this was last asked. -/
def alarms : Act Site (List Alarm) := fun s =>
  (.ok s.station.core.world,
    { s with station := { s.station with core := { s.station.core with world := [] } } })

/-- The station runs its awake window out and sleeps. -/
def takeControl : Act Site SleepReport := fun s =>
  onOrchestrator (Orchestrator.takeControlWith s.station.hook) s

/-- What is known about the next window of a peer. -/
def availability? (peer : Handle) (s : Site) : Option Availability :=
  Dispatcher.availability? peer s.station.core

end Site

/-- A state that stations on one bus are part of, each reached by its number. -/
class HasStations (σ : Type) where
  bus : σ → Bus
  /-- Replaces the bus. -/
  setBus : Bus → σ → σ
  station? : Nat → σ → Option Station
  /-- Replaces a station. -/
  setStation : Nat → Station → σ → σ
  /-- A bare endpoint. -/
  probe? : Nat → σ → Option EndpointId

namespace HasStations

variable {σ α : Type} [HasStations σ]

/-- A station with the bus that its links are on. -/
def site? (i : Nat) (s : σ) : Option Site :=
  (station? i s).map fun station => { station, bus := bus s }

/-- A step of one station. -/
def onStation (i : Nat) (x : Act Site α) : Act σ α := fun s =>
  match site? i s with
  | none => (.error (.initFail "no such station"), s)
  | some site =>
    let (r, site) := x site
    (r, setBus site.bus (setStation i site.station s))

/-- A step on the bus, which cannot fail. -/
def onBus (f : Bus → α × Bus) : Act σ α := fun s =>
  let (a, b) := f (bus s)
  (.ok a, setBus b s)

/-- A step of the dispatcher of one station. -/
def onDispatcher (i : Nat) (x : Wiring Ether → Act (Dispatcher Ether) α) : Act σ α :=
  onStation i (Site.dispatch x)

/-- The link by which a station asks a peer for its next window. After each question that could be
sent, the world around takes its course. -/
def controlLink (i : Nat) (peer : Handle) (course : σ → σ) : Orchestrator.ControlLink σ where
  orchestrator s :=
    match station? i s with
    | some station => station.core.orchestrator
    | none => .make {} 0
  put s o := (onStation i (Site.onOrchestrator fun _ => ((), o)) s).2
  ask s :=
    match onDispatcher i (fun w => Dispatcher.sendWhen w peer) s with
    | (.ok _, s) => (true, course s)
    | (.error _, s) => (false, s)
  known s := (site? i s).bind fun site => site.availability? peer

/-- A station asks a peer for its next window and sleeps until then. -/
def giveControl (i : Nat) (peer : Handle) (course : σ → σ) : Act σ Alignment := fun s =>
  let link := controlLink i peer course
  let (a, s) := Orchestrator.giveControl link (link.orchestrator s).timings.whenRetries s
  (.ok a, s)

end HasStations

end Multilink
