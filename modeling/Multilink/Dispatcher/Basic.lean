import Multilink.Announcement
import Multilink.Conversation
import Multilink.Driver
import Multilink.Orchestrator
import Multilink.Peer.Store
import Multilink.WorkQueue.Basic
/-!
# The dispatcher

The dispatcher of a node joins its peers, conversations, drivers and application queue. What is
fixed when it is built is its wiring; the rest is its state. The world of its drivers is part of the
state, so that an operation of the dispatcher is one step on both.

Incoming frames are handled in `Multilink.Dispatcher.Receive`, outgoing ones in
`Multilink.Dispatcher.Send`.
-/

namespace Multilink

/-- What a dispatcher has counted. -/
structure Counters where
  /-- Frames handed in. -/
  received : Nat := 0
  /-- Frames dropped for protocol errors or damage. -/
  dropped : Nat := 0
  /-- Messages rejected by filters. -/
  filtered : Nat := 0
  /-- Messages handed to the application queue. -/
  queued : Nat := 0
  /-- Priority messages. -/
  priority : Nat := 0
  /-- Frames sent. -/
  sent : Nat := 0
  /-- Attempts to send that failed. -/
  sendFailures : Nat := 0
  deriving DecidableEq, Repr

/-- A filter: does it reject the message? -/
abbrev Filter := Message → Bool

/-- What is fixed when a dispatcher is built. -/
structure Wiring (W : Type) where
  /-- The name announced in handshakes. -/
  name : String := "sdp-node"
  /-- The number of attempts to send a message. -/
  attempts : Nat := 4
  /-- The version announced in handshakes. -/
  version : Version := .current
  /-- The drivers, first choice first. -/
  drivers : List (Driver W)
  /-- The filters; of two for the same kind the later counts. -/
  filters : List (Kind × Filter) := []
  /-- Handles priority messages, acting on the world. -/
  onPriority : Option (Message → W → W) := none
  /-- The profiles that media are scored with. -/
  profiles : Profiles := .builtIn

namespace Wiring

variable {W : Type}

/-- The media that some driver carries. -/
def media (w : Wiring W) : MediaSet :=
  .ofList (Media.all.filter fun m => w.drivers.any (·.carries m))

/-- Checks the parts that a dispatcher is built from. -/
def check (w : Wiring W) : Except Error Unit :=
  if w.drivers.isEmpty then .error (.initFail "dispatcher has no transports")
  else if w.attempts = 0 then .error (.invalidConfig "send_attempts must be at least 1")
  else
    match w.filters.find? (!·.1.filterable) with
    | some (kind, _) => .error (.invalidConfig (kind.name ++ " messages cannot be filtered"))
    | none => .ok ()

/-- Does the filter for its kind reject a message? -/
def rejects (w : Wiring W) (m : Message) : Bool :=
  match w.filters.reverse.find? (·.1 == m.kind) with
  | some (_, filter) => filter m
  | none => false

/-- The first driver that carries frames of this length on a medium. -/
def carrier? (w : Wiring W) (m : Media) (length : Nat) (world : W) : Option (Driver W) :=
  w.drivers.find? fun d => d.carries m && length ≤ d.maxFrame world

/-- The media that frames of this length can be sent on. -/
def usable (w : Wiring W) (length : Nat) (world : W) : MediaSet :=
  .ofList (w.media.toList.filter fun m => (w.carrier? m length world).isSome)

/-- The payload of a handshake: a tag, the name, the media and the version. -/
def helloPayload (w : Wiring W) (tag : String) : Bytes :=
  Fields.join
    [Fields.text tag, Fields.text w.name, Fields.number w.media.bits.toNat,
      Fields.text w.version.text]

end Wiring

/-- The state of a dispatcher, with the world of its drivers. -/
structure Dispatcher (W : Type) where
  peers : PeerStore
  /-- The open conversations. -/
  conversations : Tracker := {}
  /-- The application queue. -/
  queue : WorkQueue Message
  /-- The awake windows and the clock. -/
  orchestrator : Orchestrator
  counters : Counters := {}
  /-- What the drivers act on. -/
  world : W

namespace Dispatcher

variable {V W α : Type}

/-- The same dispatcher in another world. -/
def inWorld (d : Dispatcher V) (world : W) : Dispatcher W where
  peers := d.peers
  conversations := d.conversations
  queue := d.queue
  orchestrator := d.orchestrator
  counters := d.counters
  world := world

/-- A step on the peers. -/
def onPeers (x : Act PeerStore α) : Act (Dispatcher W) α :=
  Act.onPart Dispatcher.peers (fun d peers => { d with peers }) x

/-- A step on the conversations. -/
def onConversations (x : Act Tracker α) : Act (Dispatcher W) α :=
  Act.onPart Dispatcher.conversations (fun d conversations => { d with conversations }) x

/-- Counts something. -/
def count (f : Counters → Counters) : Act (Dispatcher W) Unit :=
  Act.modify fun d => { d with counters := f d.counters }

/-- The time on the clock of the node. -/
def now : Act (Dispatcher W) Micros := fun d =>
  (.ok d.orchestrator.clock, d)

/-- Lets a driver send a frame, and hands its answer on. -/
def transmit (driver : Driver W) (target : Address) (m : Media) (bytes : Bytes) :
    Act (Dispatcher W) (Except LinkError Unit) := fun d =>
  let (r, world) := driver.send target m bytes d.world
  (.ok r, { d with world })

end Dispatcher

end Multilink
