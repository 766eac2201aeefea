import Multilink.Data
import Multilink.Dispatcher.Basic
/-!
# Settings

The settings of a node, in five sections. Every setting has a default. `Settings.check` finds the
first setting that is not acceptable; the other modules are configured by what `queueSettings`,
`wiring` and `timings` derive.
-/

namespace Multilink

namespace Settings

/-- Identity and room for peers. -/
structure Node where
  /-- The name announced in handshakes. -/
  name : String := "sdp-node"
  /-- The hardware address, as text. -/
  address : String := "02:00:00:00:00:01"
  /-- The number of peers that there is room for. -/
  peerCapacity : Nat := 16
  deriving DecidableEq, Repr

/-- The work queues. -/
structure Queue where
  /-- Does application work run in tasks of its own? -/
  multitask : Bool := true
  /-- The most tasks at once; zero for no limit. -/
  maxTasks : Nat := 4
  /-- The most items that wait. -/
  capacity : Nat := 64
  /-- How long a lock may take, in milliseconds. -/
  lockTimeoutMs : Nat := 5000
  /-- How long to wait when there is nothing to do, in milliseconds. -/
  idleWaitMs : Nat := 10
  deriving DecidableEq, Repr

/-- Outgoing messages. -/
structure Messaging where
  /-- The number of attempts to send a message. -/
  sendAttempts : Nat := 4
  deriving DecidableEq, Repr

/-- Awake windows, in milliseconds. -/
structure Orchestration where
  /-- The nominal length of an awake window. -/
  awakeMs : Nat := 5000
  /-- The sleep between windows. -/
  sleepMs : Nat := 30000
  /-- How long after the start of another node's window to wake. -/
  wakeMarginMs : Nat := 50
  /-- How often to ask another node for its window. -/
  whenRetries : Nat := 3
  /-- How long to wait for each answer. -/
  whenTimeoutMs : Nat := 500
  /-- How long to sleep if no answer comes. -/
  retrySleepMs : Nat := 10000
  /-- How much more time a veto asks for. -/
  vetoSliceMs : Nat := 500
  deriving DecidableEq, Repr

/-- The log. -/
structure Logging where
  /-- The level from which on events are logged. -/
  level : String := "info"
  deriving DecidableEq, Repr

end Settings

/-- The settings of a node. -/
structure Settings where
  /-- Identity and room for peers. -/
  node : Settings.Node := {}
  /-- The work queues. -/
  queue : Settings.Queue := {}
  /-- Outgoing messages. -/
  messaging : Settings.Messaging := {}
  /-- Awake windows. -/
  orchestration : Settings.Orchestration := {}
  /-- The log. -/
  logging : Settings.Logging := {}
  deriving DecidableEq, Repr

namespace Settings

/-! ## Reading -/

/-- Reads the section on identity. -/
def Node.ofData? (d : Data) : Option Node := do
  let entries ← d.section? ["name", "address", "peer_capacity"]
  let default : Node := {}
  let name ← Data.entry? entries "name" Data.text? default.name
  let address ← Data.entry? entries "address" Data.text? default.address
  let peerCapacity ← Data.entry? entries "peer_capacity" Data.word64? default.peerCapacity
  pure { name, address, peerCapacity }

/-- Reads the section on work queues. -/
def Queue.ofData? (d : Data) : Option Queue := do
  let entries ←
    d.section? ["multitask", "max_tasks", "capacity", "lock_timeout_ms", "idle_wait_ms"]
  let default : Queue := {}
  let multitask ← Data.entry? entries "multitask" Data.bool? default.multitask
  let maxTasks ← Data.entry? entries "max_tasks" Data.word64? default.maxTasks
  let capacity ← Data.entry? entries "capacity" Data.word64? default.capacity
  let lockTimeoutMs ← Data.entry? entries "lock_timeout_ms" Data.word64? default.lockTimeoutMs
  let idleWaitMs ← Data.entry? entries "idle_wait_ms" Data.word64? default.idleWaitMs
  pure { multitask, maxTasks, capacity, lockTimeoutMs, idleWaitMs }

/-- Reads the section on outgoing messages. -/
def Messaging.ofData? (d : Data) : Option Messaging := do
  let entries ← d.section? ["send_attempts"]
  let default : Messaging := {}
  let sendAttempts ← Data.entry? entries "send_attempts" Data.word32? default.sendAttempts
  pure { sendAttempts }

/-- Reads the section on awake windows. -/
def Orchestration.ofData? (d : Data) : Option Orchestration := do
  let entries ←
    d.section?
      ["awake_ms", "sleep_ms", "wake_margin_ms", "when_retries", "when_timeout_ms",
        "retry_sleep_ms", "veto_slice_ms"]
  let default : Orchestration := {}
  let awakeMs ← Data.entry? entries "awake_ms" Data.word64? default.awakeMs
  let sleepMs ← Data.entry? entries "sleep_ms" Data.word64? default.sleepMs
  let wakeMarginMs ← Data.entry? entries "wake_margin_ms" Data.word64? default.wakeMarginMs
  let whenRetries ← Data.entry? entries "when_retries" Data.word32? default.whenRetries
  let whenTimeoutMs ← Data.entry? entries "when_timeout_ms" Data.word64? default.whenTimeoutMs
  let retrySleepMs ← Data.entry? entries "retry_sleep_ms" Data.word64? default.retrySleepMs
  let vetoSliceMs ← Data.entry? entries "veto_slice_ms" Data.word64? default.vetoSliceMs
  pure
    { awakeMs, sleepMs, wakeMarginMs, whenRetries, whenTimeoutMs, retrySleepMs, vetoSliceMs }

/-- Reads the section on the log. -/
def Logging.ofData? (d : Data) : Option Logging := do
  let entries ← d.section? ["level"]
  let default : Logging := {}
  let level ← Data.entry? entries "level" Data.text? default.level
  pure { level }

/-- Reads settings. A section that is missing has its defaults; unknown entries are passed over. -/
def ofData? (d : Data) : Option Settings := do
  let entries ← d.section? ["node", "queue", "messaging", "orchestration", "logging"]
  let node ← Data.entry? entries "node" Node.ofData? {}
  let queue ← Data.entry? entries "queue" Queue.ofData? {}
  let messaging ← Data.entry? entries "messaging" Messaging.ofData? {}
  let orchestration ← Data.entry? entries "orchestration" Orchestration.ofData? {}
  let logging ← Data.entry? entries "logging" Logging.ofData? {}
  pure { node, queue, messaging, orchestration, logging }

/-! ## Writing -/

/-- The sections with their entries. -/
def sections (s : Settings) : List (String × List (String × Data)) :=
  let number (n : Nat) : Data := .integer n
  [("node",
      [("name", .text s.node.name),
       ("address", .text s.node.address),
       ("peer_capacity", number s.node.peerCapacity)]),
   ("queue",
      [("multitask", .bool s.queue.multitask),
       ("max_tasks", number s.queue.maxTasks),
       ("capacity", number s.queue.capacity),
       ("lock_timeout_ms", number s.queue.lockTimeoutMs),
       ("idle_wait_ms", number s.queue.idleWaitMs)]),
   ("messaging",
      [("send_attempts", number s.messaging.sendAttempts)]),
   ("orchestration",
      [("awake_ms", number s.orchestration.awakeMs),
       ("sleep_ms", number s.orchestration.sleepMs),
       ("wake_margin_ms", number s.orchestration.wakeMarginMs),
       ("when_retries", number s.orchestration.whenRetries),
       ("when_timeout_ms", number s.orchestration.whenTimeoutMs),
       ("retry_sleep_ms", number s.orchestration.retrySleepMs),
       ("veto_slice_ms", number s.orchestration.vetoSliceMs)]),
   ("logging",
      [("level", .text s.logging.level)])]

/-- The settings as one record. -/
def toData (s : Settings) : Data :=
  .record (s.sections.map fun e => (e.1, .record e.2))

/-! ## Checking -/

/-- The hardware address, if its text is one. -/
def address (s : Settings) : Except Error Address :=
  match Address.read? s.node.address with
  | some a => .ok a
  | none => .error (.invalidConfig (Address.malformed s.node.address))

/-- The levels that a log can have. -/
def logLevels : List String :=
  ["trace", "debug", "info", "warn", "error"]

/-- What can be wrong beside the name and the address, and is it? Each with its wording, in the
order in which faults are reported. -/
def faults (s : Settings) : List (Bool × String) :=
  [(s.node.peerCapacity == 0, "node.peer_capacity must be non-zero"),
   (s.queue.capacity == 0, "queue.capacity must be non-zero"),
   (s.queue.lockTimeoutMs == 0, "queue.lock_timeout_ms must be non-zero"),
   (s.queue.idleWaitMs == 0, "queue.idle_wait_ms must be non-zero"),
   (s.messaging.sendAttempts == 0, "messaging.send_attempts must be non-zero"),
   (s.orchestration.awakeMs == 0, "orchestration.awake_ms must be non-zero"),
   (s.orchestration.whenRetries == 0, "orchestration.when_retries must be non-zero"),
   (s.orchestration.awakeMs ≤ s.orchestration.vetoSliceMs,
    "orchestration.veto_slice_ms must be shorter than awake_ms"),
   (!logLevels.any (sameIgnoringCase s.logging.level),
    "logging.level '" ++ s.logging.level ++ "' must be one of: "
      ++ ", ".intercalate logLevels)]

/-- Is this the length of a name that a peer can have? -/
def nameFits (name : String) : Bool :=
  0 < name.utf8ByteSize && name.utf8ByteSize ≤ maxNameLength

/-- Checks every setting: the name, the address, and then the rest. -/
def check (s : Settings) : Except Error Unit := do
  if !nameFits s.node.name then
    .error (.invalidConfig
      ("node.name must be 1..=" ++ Numeral.decimal maxNameLength ++ " bytes"))
  let _ ← s.address
  match s.faults.find? (·.1) with
  | some (_, text) => .error (.invalidConfig text)
  | none => .ok ()

/-! ## What is derived -/

/-- The settings of a work queue. -/
def queueSettings (s : Settings) (name : String) : QueueSettings where
  name := name
  multitask := s.queue.multitask
  maxTasks := s.queue.maxTasks
  capacity := s.queue.capacity
  lockTimeoutMs := s.queue.lockTimeoutMs
  idleWaitMs := s.queue.idleWaitMs

/-- The wiring of a dispatcher over some drivers. -/
def wiring {W : Type} (s : Settings) (drivers : List (Driver W)) : Wiring W where
  name := s.node.name
  attempts := s.messaging.sendAttempts
  drivers := drivers

/-- The timings of the awake windows. -/
def timings (s : Settings) : Timings where
  awake := s.orchestration.awakeMs * 1000
  sleep := s.orchestration.sleepMs * 1000
  wakeMargin := s.orchestration.wakeMarginMs * 1000
  whenRetries := s.orchestration.whenRetries
  whenTimeout := s.orchestration.whenTimeoutMs * 1000
  retrySleep := s.orchestration.retrySleepMs * 1000
  vetoSlice := s.orchestration.vetoSliceMs * 1000

end Settings

end Multilink
