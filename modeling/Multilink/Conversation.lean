import Multilink.Act
/-!
# Conversations

A conversation ties a request to the reply that comes later. It belongs to a peer and has a number,
which the side that opened it chose. The tracker holds the open conversations; no two of them have
the same peer and number.

The numbers of this node come from one walk through 1 to 65535 and round again; numbers that are
open with the peer in question are passed over.
-/

namespace Multilink

/-- Who opens a conversation. -/
inductive Origin where
  /-- This node, which also chooses the number. -/
  | ours
  /-- The peer, which has chosen the number. -/
  | theirs (id : UInt16)
  deriving DecidableEq, Repr

/-- An open conversation. -/
structure Conversation where
  /-- Its number. -/
  id : UInt16
  /-- The peer on the other end. -/
  peer : Handle
  /-- What it is about. -/
  reason : String
  /-- Did this node open it? -/
  ours : Bool
  deriving DecidableEq, Repr

/-- The open conversations of a node. -/
structure Tracker where
  /-- The open conversations, in no order that matters. -/
  opened : List Conversation := []
  /-- The next number to try for a conversation of this node. -/
  nextId : UInt16 := 1
  deriving DecidableEq, Repr

namespace Tracker

/-- The number after this one on the walk, which leaves out zero. -/
def following (id : UInt16) : UInt16 :=
  if id + 1 = 0 then 1 else id + 1

/-- The open conversation with a peer under a number. -/
def find? (t : Tracker) (peer : Handle) (id : UInt16) : Option Conversation :=
  t.opened.find? fun c => c.peer == peer && c.id == id

/-- The number of open conversations. -/
def size (t : Tracker) : Nat :=
  t.opened.length

/-- Walks over at most `steps` numbers from `id`, to the first that is not open with the peer.
Returns it, if there is one, and where the walk goes on. -/
def walk (t : Tracker) (peer : Handle) : Nat → UInt16 → Option UInt16 × UInt16
  | 0, id => (none, id)
  | steps + 1, id =>
    if (t.find? peer id).isNone then (some id, following id)
    else walk t peer steps (following id)

/-- Opens a conversation of this node under the next free number. -/
def openOurs (peer : Handle) (reason : String) : Act Tracker UInt16 := fun t =>
  match t.walk peer 65535 t.nextId with
  | (none, nextId) => (.error (.conversation peer 0), { t with nextId })
  | (some id, nextId) => (.ok id, { opened := t.opened ++ [⟨id, peer, reason, true⟩], nextId })

/-- Opens a conversation of the peer under the number it chose. One that is open already stays as it
is; one of this node under the same number stands in the way. -/
def openTheirs (peer : Handle) (id : UInt16) (reason : String) : Act Tracker UInt16 := fun t =>
  match t.find? peer id with
  | some c => if c.ours then (.error (.conversation peer id), t) else (.ok id, t)
  | none => (.ok id, { t with opened := t.opened ++ [⟨id, peer, reason, false⟩] })

/-- Opens a conversation and returns its number. -/
def «open» (peer : Handle) (reason : String) : Origin → Act Tracker UInt16
  | .ours => openOurs peer reason
  | .theirs id => openTheirs peer id reason

/-- Closes the conversation with a peer under a number, if it is there and `keep` does not hold it
open. -/
def closeIf (peer : Handle) (id : UInt16) (test : Conversation → Bool) : Act Tracker Conversation :=
  fun t =>
    match (t.find? peer id).filter test with
    | some c => (.ok c, { t with opened := t.opened.erase c })
    | none => (.error (.conversation peer id), t)

/-- Closes a conversation. -/
def close (peer : Handle) (id : UInt16) : Act Tracker Conversation :=
  closeIf peer id fun _ => true

/-- Closes a conversation that this node opened, as its reply does. -/
def closeOurs (peer : Handle) (id : UInt16) : Act Tracker Conversation :=
  closeIf peer id (·.ours)

/-- Closes a conversation that the peer opened, as answering it does. -/
def closeTheirs (peer : Handle) (id : UInt16) : Act Tracker Conversation :=
  closeIf peer id fun c => !c.ours

/-- Closes everything open with a peer, and returns how many there were. -/
def closeAll (peer : Handle) : Act Tracker Nat := fun t =>
  let kept := t.opened.filter fun c => c.peer != peer
  (.ok (t.opened.length - kept.length), { t with opened := kept })

end Tracker

end Multilink
