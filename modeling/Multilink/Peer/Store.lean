import Multilink.Act
import Multilink.Peer.Basic
/-!
# The peer store

A fixed number of slots for peers, all of them allocated at once. A handle comes from a counter that
only grows, so that the handle of a removed peer names nobody ever after. Names and addresses are each
held by one peer at most.

While some other activity holds the store, every operation ends in a lock timeout and changes
nothing.
-/

namespace Multilink

/-- The longest name of a peer, in bytes of UTF-8. -/
def maxNameLength : Nat := 32

/-- The memory that there is for peers. -/
structure Memory where
  /-- The number of slots that it has room for. -/
  slots : Nat := 0x100000000
  /-- An allocation has fewer than 2^63 bytes, and the name in a slot alone takes 24. -/
  bounded : slots * 24 < 0x8000000000000000 := by decide

/-- The peers of a node. -/
structure PeerStore where
  /-- The address of the node itself. -/
  localAddress : Address
  /-- The number of slots. -/
  capacity : Nat
  /-- The slots used so far; a removed peer leaves its slot empty. The slots after these, up to the
  capacity, are empty and not listed. -/
  slots : List (Option Peer) := []
  /-- The handle of the next peer. -/
  nextHandle : UInt32 := 1
  /-- Is the store held by another activity? -/
  held : Bool := false

namespace PeerStore

variable {α : Type}

/-- A store with all of its slots empty. -/
def new (a : Address) (capacity : Nat) : PeerStore :=
  { localAddress := a, capacity }

/-- Allocates the slots of a new store. -/
def allocate (memory : Memory) (a : Address) (capacity : Nat) : Except BuildFailure PeerStore :=
  if capacity ≤ memory.slots then .ok (new a capacity) else .error .panicked

/-- The live peers in the order of their slots. -/
def peers (s : PeerStore) : List Peer :=
  s.slots.filterMap id

/-- What is wrong with a name, if anything. -/
def nameFault? (name : String) : Option String :=
  if name.utf8ByteSize = 0 then some "empty name"
  else if maxNameLength < name.utf8ByteSize then
    some ("name longer than " ++ Numeral.decimal maxNameLength ++ " bytes: " ++ name)
  else none

/-- Takes a step with the store locked, unless another activity holds it. -/
def locked (x : Act PeerStore α) : Act PeerStore α := fun s =>
  if s.held then (.error (.lockTimeout "peer store"), s) else x s

/-- Puts a peer into the first empty slot. -/
def place (p : Peer) : List (Option Peer) → List (Option Peer)
  | [] => [some p]
  | none :: rest => some p :: rest
  | some q :: rest => some q :: place p rest

/-- Applies `f` to the first peer with a handle. `f` returns an answer and what stays in the
slot. -/
def alter (h : Handle) (f : Peer → α × Option Peer) :
    List (Option Peer) → Option (α × List (Option Peer))
  | [] => none
  | none :: rest => (alter h f rest).map fun (a, rest) => (a, none :: rest)
  | some p :: rest =>
    if p.handle = h then some ((f p).1, (f p).2 :: rest)
    else (alter h f rest).map fun (a, rest) => (a, some p :: rest)

/-- Applies `f` to the live peer with a handle. -/
def onSlot (h : Handle) (f : Peer → α × Option Peer) : Act PeerStore α :=
  locked fun s =>
    match alter h f s.slots with
    | none => (.error (.peerNotFound h), s)
    | some (a, slots) => (.ok a, { s with slots })

/-- Changes a peer and returns an answer. -/
def withPeer (h : Handle) (f : Peer → α × Peer) : Act PeerStore α :=
  onSlot h fun p => ((f p).1, some (f p).2)

/-- Changes a peer. -/
def update (h : Handle) (f : Peer → Peer) : Act PeerStore Unit :=
  withPeer h fun p => ((), f p)

/-- Adds a peer. The faults are looked for in this order: the name itself, the name taken, the
address taken, no free slot, no handle left. -/
def add (name : String) (address : Address) (media : MediaSet) : Act PeerStore Handle := fun s =>
  match nameFault? name with
  | some fault => (.error (.invalidPeer fault), s)
  | none =>
    locked (fun s =>
      if s.peers.any (·.name == name) then (.error (.peerExists name), s)
      else if s.peers.any (·.address == address) then (.error (.peerExists address.text), s)
      else if s.capacity ≤ s.peers.length then (.error (.outOfMemory s.capacity), s)
      else if s.nextHandle.toNat + 1 = 0x100000000 then (.error (.outOfMemory s.capacity), s)
      else
        let handle : Handle := ⟨s.nextHandle⟩
        let peer := Peer.make handle name address media s.localAddress
        (.ok handle, { s with slots := place peer s.slots, nextHandle := s.nextHandle + 1 })) s

/-- Removes a peer and returns its last state. -/
def remove (h : Handle) : Act PeerStore Peer :=
  onSlot h fun p => (p, none)

/-- The handle of the first peer that a test holds for. -/
def find? (test : Peer → Bool) : Act PeerStore (Option Handle) :=
  locked fun s => (.ok ((s.peers.find? test).map (·.handle)), s)

/-- The handle itself, if it names a live peer. -/
def findHandle? (h : Handle) : Act PeerStore (Option Handle) :=
  find? fun p => p.handle == h

/-- The peer at an address. -/
def findAddress? (a : Address) : Act PeerStore (Option Handle) :=
  find? fun p => p.address == a

/-- The peer with a name. -/
def findName? (name : String) : Act PeerStore (Option Handle) :=
  find? fun p => p.name == name

/-- The peer that shares a relation. -/
def findRelation? (r : UInt32) : Act PeerStore (Option Handle) :=
  find? fun p => p.relation == r

/-- The peer with a handle, as it is now. -/
def snapshot (h : Handle) : Act PeerStore Peer :=
  locked fun s =>
    match s.peers.find? (·.handle == h) with
    | none => (.error (.peerNotFound h), s)
    | some p => (.ok p, s)

/-- All live peers, as they are now. -/
def list : Act PeerStore (List Peer) :=
  locked fun s => (.ok s.peers, s)

/-- The number of live peers. -/
def size : Act PeerStore Nat :=
  locked fun s => (.ok s.peers.length, s)

/-- Is there no live peer? -/
def isEmpty : Act PeerStore Bool := do
  pure ((← size) == 0)

/-- Takes over what a peer announced about itself, under a name that may be absent. -/
def introduce (name : Option String) (media : MediaSet) (version : Version) (p : Peer) : Peer :=
  let p := { p with name := name.getD p.name }
  let p := if media.isEmpty then p else p.setMedia media
  let trust := if p.trust = .unknown then .knownInsecure else p.trust
  { p with version, trust }

/-- Takes over what a peer announced about itself. A name that is no name, or that another peer
holds, is passed over; an empty set of media leaves the media as they are. -/
def updateIdentity (h : Handle) (name : Option String) (media : MediaSet) (version : Version) :
    Act PeerStore Unit := fun s =>
  let name := name.filter fun n =>
    (nameFault? n).isNone && !s.peers.any fun p => p.handle != h && p.name == n
  update h (introduce name media version) s

/-- Notes the outcome of a send on a medium. -/
def recordSend (h : Handle) (m : Media) (ok : Bool) : Act PeerStore Unit :=
  update h fun p => p.updateStats m (·.recordSend ok)

/-- Notes the outcome of a receive on a medium. -/
def recordReceive (h : Handle) (m : Media) (ok : Bool) : Act PeerStore Unit :=
  update h fun p => p.updateStats m (·.recordReceive ok)

/-- Notes the speed that a driver measured on a medium. -/
def recordSpeed (h : Handle) (m : Media) (speed : UInt32) : Act PeerStore Unit :=
  update h fun p => p.updateStats m fun s => { s with measuredSpeed := speed }

/-- Notes when a peer listens next. -/
def setAvailability (h : Handle) (a : Availability) : Act PeerStore Unit :=
  update h fun p => { p with availability := some a }

/-- Replaces the media of a peer. -/
def setMedia (h : Handle) (media : MediaSet) : Act PeerStore Unit :=
  update h fun p => p.setMedia media

/-- Takes the identity of a peer as proved. -/
def setSecure (h : Handle) : Act PeerStore Unit :=
  update h fun p => { p with trust := .knownSecure }

/-- Marks a peer as added by configuration. -/
def markProvisioned (h : Handle) : Act PeerStore Unit :=
  update h fun p => { p with provisioned := true, trust := .knownInsecure }

/-- Scores a medium of a peer for a payload length. -/
def score (profiles : Profiles) (now : Micros) (h : Handle) (m : Media) (length : Nat) :
    Act PeerStore (Option Score) :=
  withPeer h fun p => Peer.score? profiles now length p m

/-- Picks the medium for a payload to a peer, and tells the address it goes to. -/
def select (profiles : Profiles) (now : Micros) (h : Handle) (length : Nat) (usable : MediaSet) :
    Act PeerStore (Option Media × Address) :=
  withPeer h fun p =>
    let (m, q) := Peer.select? profiles now length usable p
    ((m, p.address), q)

/-- Takes hold of the store for a live peer, as an activity that works on that peer does. -/
def hold (h : Handle) : Act PeerStore Unit := do
  let _ ← snapshot h
  Act.modify fun s => { s with held := true }

/-- Ends the hold on the store. -/
def release : Act PeerStore Unit :=
  Act.modify fun s => { s with held := false }

end PeerStore

end Multilink
