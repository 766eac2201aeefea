import Multilink.Clock
import Multilink.Frame
import Multilink.PerMedia
import Multilink.Peer.Version
import Multilink.Score.Stats
/-!
# Peers

A remote node as this node knows it: its identity, its trust, its media with the statistics of each,
and when it will listen next. Statistics exist for exactly the media of the peer.

`Peer.select?` picks the medium for a payload: every medium shared with this node is scored, the
best score wins, and of equal scores the medium of higher priority.
-/

namespace Multilink

/-- Scores as the engine computes them. -/
abbrev Score := Float32

/-- How far the identity of a peer is trusted. -/
inductive Trust where
  /-- Seen, but identity not exchanged. -/
  | unknown
  /-- Identity exchanged in the clear. -/
  | knownInsecure
  /-- Identity proved. -/
  | knownSecure
  deriving DecidableEq, Repr

/-- When a peer listens next, in microseconds of the local clock. -/
structure Availability where
  /-- The start of its next awake window. -/
  next : Micros
  /-- How long that window lasts. -/
  awake : Micros
  /-- When this was learned. -/
  updated : Micros
  deriving DecidableEq, Repr

/-- The number that two nodes share: the checksum of both addresses, the smaller first. -/
def relation (a b : Address) : UInt32 :=
  if a.toNat ≤ b.toNat then checksum (a.bytes ++ b.bytes) else checksum (b.bytes ++ a.bytes)

/-- The profile of every medium. -/
abbrev Profiles := PerMedia (Profile Score)

/-- The built-in profile of every medium. -/
def Profiles.builtIn : Profiles :=
  PerMedia.ofFn Profile.builtIn

/-- A remote node. -/
structure Peer where
  /-- Its handle in the store. -/
  handle : Handle
  name : String
  address : Address
  /-- The version it announced. -/
  version : Version := {}
  /-- The number that it shares with this node. -/
  relation : UInt32
  /-- How far it is trusted. -/
  trust : Trust := .unknown
  /-- When it listens next, once announced. -/
  availability : Option Availability := none
  /-- Was it added by configuration? -/
  provisioned : Bool := false
  /-- The media it speaks on. -/
  media : MediaSet := .empty
  /-- Statistics for each of these media. -/
  stats : PerMedia (Option (LinkStats Score)) := .ofFn fun _ => none

namespace Peer

/-- Statistics without history for a medium. -/
def freshStats (m : Media) : LinkStats Score :=
  { nominalSpeed := (Profile.builtIn (R := Score) m).nominalSpeed }

/-- Replaces the media. Media that stay keep their statistics, new ones start without history. -/
def setMedia (p : Peer) (media : MediaSet) : Peer :=
  { p with
    media
    stats := .ofFn fun m =>
      if media.contains m then some ((p.stats.get m).getD (freshStats m)) else none }

/-- A peer as it is first seen. -/
def make (handle : Handle) (name : String) (address : Address) (media : MediaSet)
    (localAddress : Address) : Peer :=
  setMedia { handle, name, address, relation := Multilink.relation localAddress address } media

/-- Changes the statistics of one medium, if the peer has it. -/
def updateStats (p : Peer) (m : Media) (f : LinkStats Score → LinkStats Score) : Peer :=
  { p with stats := p.stats.set m ((p.stats.get m).map f) }

/-- Scores one medium for a payload length; none if the peer lacks it. -/
def score? (profiles : Profiles) (now : Micros) (length : Nat) (p : Peer) (m : Media) :
    Option Score × Peer :=
  match p.stats.get m with
  | none => (none, p)
  | some s =>
    let (result, scored) := s.score (profiles.get m) length now
    (some result, { p with stats := p.stats.set m (some scored) })

/-- The better of the best medium so far and a new one. The old one stays if its score is higher, or
equal and its medium of higher priority. -/
def better (best : Option (Media × Score)) (m : Media) (s : Score) : Media × Score :=
  match best with
  | some (b, t) => if s < t || (t == s && m.priority < b.priority) then (b, t) else (m, s)
  | none => (m, s)

/-- Scores media in turn and keeps the best of them. -/
def selectFrom (profiles : Profiles) (now : Micros) (length : Nat) :
    List Media → Option (Media × Score) → Peer → Option (Media × Score) × Peer
  | [], best, p => (best, p)
  | m :: rest, best, p =>
    match score? profiles now length p m with
    | (none, p) => selectFrom profiles now length rest best p
    | (some s, p) => selectFrom profiles now length rest (some (better best m s)) p

/-- Picks the medium for a payload among those shared with this node, and scores all of these. -/
def select? (profiles : Profiles) (now : Micros) (length : Nat) (usable : MediaSet) (p : Peer) :
    Option Media × Peer :=
  let (best, p) := selectFrom profiles now length (p.media.inter usable).toList none p
  (best.map (·.1), p)

end Peer

end Multilink
