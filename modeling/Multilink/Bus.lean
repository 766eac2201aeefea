import Multilink.Driver
/-!
# The memory bus

A bus in memory connects endpoints, each for one address and one medium. A frame goes to the
endpoint that is attached under its destination and medium, and waits there until it is polled.
Faults can be injected: failing sends, a link that is down, damaged frames, a limit on the length.

Endpoints are named by the order in which they were attached. Attaching again under the same address
and medium replaces an endpoint; the old one can still send, and keeps what it has.
-/

namespace Multilink

/-- The name of an endpoint. -/
abbrev EndpointId := Nat

/-- An endpoint of a bus. -/
structure Endpoint where
  address : Address
  /-- Its medium. -/
  media : Media
  /-- The frames that wait to be polled, first in first. -/
  pending : List Inbound := []
  /-- The relation that its frames carry instead of its address. -/
  relation : Option UInt32 := none
  /-- How many of the next sends fail. -/
  failNext : Nat := 0
  /-- How many of the next frames are damaged. -/
  corruptNext : Nat := 0
  /-- Is the link down? -/
  linkDown : Bool := false
  /-- The longest frame that it sends. -/
  maxFrame : Nat := Driver.unlimited
  /-- The speed that it reports, in bytes a second. -/
  speed : Option UInt32 := none
  /-- What it has carried. -/
  traffic : Traffic := {}
  /-- Has it been dropped, so that nobody receives there any more? -/
  dropped : Bool := false
  deriving DecidableEq, Repr

/-- New faults and features of an endpoint. What is not given stays as it is. -/
structure Faults where
  /-- How many of the next sends fail. -/
  failNext : Option Nat := none
  /-- How many of the next frames are damaged. -/
  corruptNext : Option Nat := none
  /-- Is the link down? -/
  linkDown : Option Bool := none
  /-- The longest frame. -/
  maxFrame : Option Nat := none
  /-- The relation that frames carry instead of the address, or that they carry the address. -/
  relation : Option (Option UInt32) := none
  /-- The speed that is reported, or that none is. -/
  speed : Option (Option UInt32) := none
  deriving DecidableEq, Repr

namespace Endpoint

/-- The endpoint with new faults and features. -/
def set (f : Faults) (e : Endpoint) : Endpoint :=
  { e with
    failNext := f.failNext.getD e.failNext
    corruptNext := f.corruptNext.getD e.corruptNext
    linkDown := f.linkDown.getD e.linkDown
    maxFrame := f.maxFrame.getD e.maxFrame
    relation := f.relation.getD e.relation
    speed := f.speed.getD e.speed }

/-- How its frames name it. -/
def sender (e : Endpoint) : Sender :=
  match e.relation with
  | some r => .relation r
  | none => .address e.address

end Endpoint

/-- A bus with all endpoints that were ever attached to it. -/
structure Bus where
  /-- The endpoints, by their names. -/
  endpoints : List Endpoint := []
  /-- The endpoint that is attached under an address and medium. -/
  attached : List ((Address × Media) × EndpointId) := []
  deriving Repr

namespace Bus

/-- The endpoint with a name. -/
def endpoint? (b : Bus) (i : EndpointId) : Option Endpoint :=
  b.endpoints[i]?

/-- Changes an endpoint. -/
def update (i : EndpointId) (f : Endpoint → Endpoint) (b : Bus) : Bus :=
  { b with endpoints := b.endpoints.modify i f }

/-- The name of the endpoint that is attached under an address and medium. -/
def find? (b : Bus) (address : Address) (media : Media) : Option EndpointId :=
  (b.attached.find? fun entry => entry.1 == (address, media)).map (·.2)

/-- Takes off what is attached under an address and medium. -/
def detach (address : Address) (media : Media) (b : Bus) : Bus :=
  { b with attached := b.attached.filter fun entry => entry.1 != (address, media) }

/-- Attaches a new endpoint, in place of the one that is attached there. -/
def attach (address : Address) (media : Media) (b : Bus) : EndpointId × Bus :=
  let b := b.detach address media
  let i := b.endpoints.length
  (i,
    { endpoints := b.endpoints ++ [{ address, media }]
      attached := b.attached ++ [((address, media), i)] })

/-- The number of attached endpoints. -/
def size (b : Bus) : Nat :=
  b.attached.length

/-- Drops an endpoint. It stays attached, but nobody receives there any more. -/
def drop (i : EndpointId) (b : Bus) : Bus :=
  b.update i fun e => { e with dropped := true }

/-- The name of the endpoint that a frame reaches, if one is attached there and not dropped. -/
def destination? (b : Bus) (target : Address) (media : Media) : Option EndpointId :=
  (b.find? target media).filter fun i => (b.endpoint? i).any (!·.dropped)

/-- Flips the lowest bit of the last byte. -/
def damage : Bytes → Bytes
  | [] => []
  | [b] => [b ^^^ 1]
  | b :: rest => b :: damage rest

/-- Hands a frame to the endpoint under an address, or fails. -/
def deliver (target : Address) (frame : Inbound) (b : Bus) : Except LinkError Unit × Bus :=
  match b.destination? target frame.media with
  | none => (.error (.unreachable target), b)
  | some i => (.ok (), b.update i fun e => { e with pending := e.pending ++ [frame] })

/-- What becomes of a send, before it is counted. Faults come in this order: the wrong medium, the
link down, an injected failure, the length; then damage, even if nobody is there to receive. -/
def transmit (i : EndpointId) (e : Endpoint) (target : Address) (media : Media) (bytes : Bytes)
    (b : Bus) : Except LinkError Unit × Bus :=
  if media ≠ e.media then (.error (.unsupported media), b)
  else if e.linkDown then (.error (.unreachable target), b)
  else if 0 < e.failNext then
    (.error (.noAck target), b.update i fun e => { e with failNext := e.failNext - 1 })
  else if e.maxFrame < bytes.length then
    (.error (.tooLarge e.media bytes.length e.maxFrame), b)
  else if 0 < e.corruptNext then
    (b.update i fun e => { e with corruptNext := e.corruptNext - 1 }).deliver target
      { sender := e.sender, media := e.media, bytes := damage bytes }
  else b.deliver target { sender := e.sender, media := e.media, bytes }

/-- Sends a frame from an endpoint, and counts the send or its failure. -/
def send (i : EndpointId) (target : Address) (media : Media) (bytes : Bytes) (b : Bus) :
    Except LinkError Unit × Bus :=
  match b.endpoint? i with
  | none => (.error .closed, b)
  | some e =>
    match b.transmit i e target media bytes with
    | (.ok (), b) =>
      (.ok (), b.update i fun e => { e with traffic := e.traffic.sent bytes.length })
    | (.error err, b) =>
      (.error err, b.update i fun e => { e with traffic := e.traffic.sendFailed })

/-- Takes all waiting frames of an endpoint. While its link is down they are lost. -/
def poll (i : EndpointId) (b : Bus) : List Inbound × Bus :=
  match b.endpoint? i with
  | none => ([], b)
  | some e =>
    let traffic :=
      e.pending.foldl
        (fun t f => if e.linkDown then t.recvFailed else t.received f.bytes.length) e.traffic
    (if e.linkDown then [] else e.pending, b.update i fun e => { e with pending := [], traffic })

/-- What an endpoint has carried. -/
def traffic (i : EndpointId) (b : Bus) : Traffic :=
  ((b.endpoint? i).map (·.traffic)).getD {}

/-- The driver of one endpoint. -/
def driver (i : EndpointId) (media : Media) : Driver Bus where
  carries m := m == media
  maxFrame b := ((b.endpoint? i).map (·.maxFrame)).getD Driver.unlimited
  send target m bytes b := b.send i target m bytes
  speed? _ b := (b.endpoint? i).bind (·.speed)

/-- One driver for several endpoints: a frame is sent by the endpoint for its medium. -/
def bundle (links : List (EndpointId × Media)) : Driver Bus where
  carries m := links.any (·.2 == m)
  maxFrame _ := Driver.unlimited
  send target m bytes b :=
    match links.find? (·.2 == m) with
    | some (i, _) => b.send i target m bytes
    | none => (.error (.unsupported m), b)
  speed? _ _ := none

end Bus

end Multilink
