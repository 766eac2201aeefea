import Multilink.Settings
import Multilink.Station
import Multilink.WorkQueue.Scheduler
/-!
# Nodes

A node is a station that handles frames and messages by itself once it is started. Each outlet has a
work queue, whose scheduler polls the endpoints of the outlet and hands the frames to the dispatcher
one after the other, in the order in which they arrived. The messages that the dispatcher queues are
handled by the scheduler of the application queue.

`NodeSite.intakeStep` and `NodeSite.applicationStep` are single moves of these schedulers, so that
any interleaving of them is a run of the node.
-/

namespace Multilink

/-- An application: with what payload does it answer a message, if at all? -/
abbrev Application := Message → Option Bytes

/-- What a node is built from. -/
structure NodePlan where
  settings : Settings
  /-- The time at which the clock begins. -/
  clock : Micros := 1000000
  /-- The outlets, first choice first. -/
  outlets : List Outlet
  /-- The filters; of two for the same kind the later counts. -/
  filters : List (Kind × Filter) := []
  /-- Are priority messages handled? -/
  alarmed : Bool := true
  /-- The application, without which there is no node. -/
  application : Option Application
  /-- What the hook before a sleep answers in turn, if there is one. -/
  hook : Option (List HookAnswer) := none
  /-- The memory that there is for peers. -/
  memory : Memory := {}

/-- The work queue of an outlet. -/
structure Intake where
  /-- The endpoints of the outlet. -/
  endpoints : List EndpointId
  /-- The queue with its scheduler. -/
  scheduler : Scheduler Inbound

/-- A station with its work queues. -/
structure Node where
  settings : Settings
  station : Station
  /-- The work queues of the outlets. -/
  intakes : List Intake
  /-- Where the scheduler of the application queue stands. -/
  phase : Phase Message := .notStarted
  /-- The tasks of the application queue. -/
  tasks : List (Task Message) := []
  application : Application
  /-- Has the node been started, and not been shut down since? -/
  running : Bool := false

namespace Node

variable {α : Type}

/-! ## Building -/

/-- The plan of the station, at the address that the settings give. -/
def stationPlan (plan : NodePlan) (address : Address) : StationPlan where
  address := address
  name := plan.settings.node.name
  peerCapacity := plan.settings.node.peerCapacity
  memory := plan.memory
  queue := plan.settings.queueSettings "sdp-dispatch"
  attempts := plan.settings.messaging.sendAttempts
  clock := plan.clock
  outlets := plan.outlets
  filters := plan.filters
  alarmed := plan.alarmed
  timings := plan.settings.timings
  hook := plan.hook

/-- The settings of the queue of an outlet: its frames are handled one after the other. -/
def intakeSettings (settings : Settings) (outlet : Outlet) : QueueSettings :=
  { settings.queueSettings ("sdp-" ++ outlet.name) with multitask := false, maxTasks := 0 }

/-- Builds the queue of an outlet. -/
def buildIntake (settings : Settings) (outlet : Outlet) (endpoints : List EndpointId) :
    Except Error Intake := do
  let queue ← (WorkQueue.build? (intakeSettings settings outlet) true).mapError .queue
  pure { endpoints, scheduler := { queue } }

/-- Builds the queues of all outlets. -/
def buildIntakes (settings : Settings) :
    List Outlet → List (List EndpointId) → Except Error (List Intake)
  | outlet :: outlets, endpoints :: rest => do
    let intake ← buildIntake settings outlet endpoints
    let others ← buildIntakes settings outlets rest
    pure (intake :: others)
  | _, _ => .ok []

/-- Builds a node. Settings that are not acceptable are reported first, then a missing application,
then what the queues and the dispatcher lack. Nothing runs before `start`. -/
def build (plan : NodePlan) (bus : Bus) : Except BuildFailure (Node × Bus) := do
  plan.settings.check.mapError .refused
  match plan.application with
  | none => .error (.refused (.initFail "node has no message handler"))
  | some application =>
    let address ← plan.settings.address.mapError .refused
    let _ ← (WorkQueue.build? (α := Message) (plan.settings.queueSettings "sdp-dispatch") true).mapError
      (BuildFailure.refused ∘ .queue)
    let (station, bus) ← Station.build (stationPlan plan address) bus
    let intakes ← (buildIntakes plan.settings plan.outlets station.outlets).mapError .refused
    pure ({ settings := plan.settings, station, intakes, application }, bus)

/-! ## Running -/

/-- Starts every scheduler. -/
def start (n : Node) : Except Error Unit × Node :=
  if n.running then (.error (.initFail "node already started"), n)
  else
    (.ok (),
      { n with
        running := true
        phase := if n.phase = .notStarted then .loopTest else n.phase
        intakes := n.intakes.map fun k => { k with scheduler := (k.scheduler.step .start).1 } })

/-- Shuts every queue down and stops the orchestrator. -/
def shutDown (n : Node) : Node :=
  let core := n.station.core
  { n with
    running := false
    station :=
      { n.station with
        core := { core with queue := core.queue.shutDown, orchestrator := core.orchestrator.stop } }
    intakes := n.intakes.map fun k => { k with scheduler := (k.scheduler.step .shutDown).1 } }

end Node

/-- A node with the bus that its links are on. -/
structure NodeSite where
  node : Node
  bus : Bus

namespace NodeSite

variable {α : Type}

/-- A step of the station, whatever comes of it. -/
def onStation (x : Act Site α) (s : NodeSite) : NodeSite :=
  let (_, site) := x { station := s.node.station, bus := s.bus }
  { node := { s.node with station := site.station }, bus := site.bus }

/-- Replaces the queue of an outlet. -/
def setIntake (i : Nat) (k : Intake) (s : NodeSite) : NodeSite :=
  { s with node := { s.node with intakes := s.node.intakes.set i k } }

/-- Puts frames into the queue of an outlet, as far as it takes them. -/
def enqueueAll (frames : List Inbound) (k : Intake) : Intake :=
  { k with scheduler := frames.foldl (fun q f => (q.offer f).1) k.scheduler }

/-- Polls the endpoints of an outlet into its queue. -/
def pollInto : List EndpointId → Intake → Bus → Intake × Bus
  | [], k, bus => (k, bus)
  | i :: rest, k, bus =>
    let (frames, bus) := bus.poll i
    pollInto rest (enqueueAll frames k) bus

/-- The next move of the scheduler of an outlet. -/
def intakeStep (i : Nat) (s : NodeSite) : NodeSite :=
  match s.node.intakes[i]? with
  | none => s
  | some k =>
    match k.scheduler.phase with
    | .polling =>
      let (k, bus) := pollInto k.endpoints k s.bus
      setIntake i { k with scheduler := (k.scheduler.step .advance).1 } { s with bus }
    | .working f =>
      (s.onStation (Site.dispatch fun w => Dispatcher.receive w f)).setIntake i
        { k with scheduler := (k.scheduler.step (.workEnds false)).1 }
    | _ => s.setIntake i { k with scheduler := (k.scheduler.step .advance).1 }

/-- The application queue with its scheduler. -/
def applicationQueue (s : NodeSite) : Scheduler Message where
  queue := s.node.station.core.queue
  phase := s.node.phase
  tasks := s.node.tasks

/-- Replaces the application queue and its scheduler. -/
def setApplicationQueue (q : Scheduler Message) (s : NodeSite) : NodeSite :=
  let s := s.onStation (Site.setQueue q.queue)
  { s with node := { s.node with phase := q.phase, tasks := q.tasks } }

/-- Hands a message to the application, and sends its answer. -/
def serve (m : Message) (s : NodeSite) : NodeSite :=
  let s := s.onStation (Site.keep m)
  match s.node.application m with
  | none => s
  | some payload => s.onStation (Site.dispatch fun w => Dispatcher.reply w m payload)

/-- A move of the scheduler of the application queue. -/
def moveApplication (m : Move Message) (s : NodeSite) : NodeSite :=
  s.setApplicationQueue (s.applicationQueue.step m).1

/-- The next move of the application queue: its first task goes on, or else its scheduler. -/
def applicationStep (s : NodeSite) : NodeSite :=
  match s.node.tasks, s.node.phase with
  | t :: _, _ => (if t.stage = .working then s.serve t.item else s).moveApplication (.taskStep 0)
  | [], .working m => (s.serve m).moveApplication (.workEnds false)
  | [], _ => s.moveApplication .advance

/-- Do frames wait at some of these endpoints? -/
def framesWait (endpoints : List EndpointId) (bus : Bus) : Bool :=
  endpoints.any fun i => (bus.endpoint? i).any fun e => !e.pending.isEmpty

/-- Has the scheduler of an outlet something to do? -/
def intakeBusy (k : Intake) (bus : Bus) : Bool :=
  match k.scheduler.phase with
  | .notStarted | .stopped | .crashed => false
  | .loopTest =>
    k.scheduler.queue.closed || !k.scheduler.queue.items.isEmpty || framesWait k.endpoints bus
  | _ => true

/-- Has the application queue something to do? -/
def applicationBusy (s : NodeSite) : Bool :=
  match s.node.phase with
  | .notStarted | .stopped | .crashed => false
  | .loopTest =>
    s.applicationQueue.queue.closed || !s.applicationQueue.queue.items.isEmpty
      || !s.node.tasks.isEmpty
  | _ => true

/-- Makes the next move of the first scheduler that has something to do: that of the application
first, then those of the outlets. -/
def move? (s : NodeSite) : Option NodeSite :=
  if s.applicationBusy then some s.applicationStep
  else (s.node.intakes.findIdx? fun k => intakeBusy k s.bus).map fun i => s.intakeStep i

end NodeSite

end Multilink
