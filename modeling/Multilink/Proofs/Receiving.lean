import Multilink.Dispatcher.Receive
import Multilink.Proofs.Frames
import Multilink.Proofs.Membership
import Multilink.Proofs.Sending
/-!
# How a frame is taken in

`Dispatcher.route` reads a frame, checks it, attributes it to a peer and hands the message on. The
lemmas here say what each of these parts comes to, so that what is proved of received frames need not
open them again: `run_receive` for the counting around, `run_route` for the parts in their order,
`resolveSender_ok` for the attribution, which leaves the conversations and the queue alone.
-/

namespace Multilink

/-- The peer with one more failed receive on a medium, if it has that medium. -/
def Peer.chargeReceive (m : Media) (p : Peer) : Peer :=
  { p with
    stats := p.stats.set m ((p.stats.get m).map fun s => { s with recvFail := s.recvFail.succ }) }

namespace Dispatcher

open Act

variable {W α : Type} (w : Wiring W)

/-! ## Counting -/

/-- The dispatcher with one more frame received. -/
def countReceived (d : Dispatcher W) : Dispatcher W :=
  { d with counters := { d.counters with received := d.counters.received + 1 } }

/-- The dispatcher with one more frame dropped. -/
def countDropped (d : Dispatcher W) : Dispatcher W :=
  { d with counters := { d.counters with dropped := d.counters.dropped + 1 } }

/-- The dispatcher with one more message rejected by a filter. -/
def countFiltered (d : Dispatcher W) : Dispatcher W :=
  { d with counters := { d.counters with filtered := d.counters.filtered + 1 } }

/-- The dispatcher with one more message handed to the application. -/
def countQueued (d : Dispatcher W) : Dispatcher W :=
  { d with counters := { d.counters with queued := d.counters.queued + 1 } }

theorem run_receive (f : Inbound) (d : Dispatcher W) :
    (receive w f).run d =
      (((route w f).run d.countReceived).1,
        match (route w f).run d.countReceived with
        | (.ok (), t) => t
        | (.error e, t) => if e.isProtocol then t.countDropped else t) := by
  have hcount : (count fun c => { c with received := c.received + 1 }).run d =
      (.ok (), d.countReceived) := rfl
  unfold receive
  rw [run_bind_ok hcount, run_bind_ok (run_attempt _ _)]
  rcases (route w f).run d.countReceived with ⟨⟨⟩ | ⟨⟩, t⟩
  · next e =>
    cases he : e.isProtocol <;> simp [he, run_bind, count, countDropped]
  · rfl

theorem receive_fst (f : Inbound) (d : Dispatcher W) :
    ((receive w f).run d).1 = ((route w f).run d.countReceived).1 := by
  rw [run_receive]

/-- What the counting around leaves alone is what the frame has left. -/
theorem view_receive {γ : Type} {view : Dispatcher W → γ} (hview : ∀ g, Keeps view (count g))
    (f : Inbound) (d : Dispatcher W) :
    view ((receive w f).run d).2 = view ((route w f).run d.countReceived).2 := by
  rw [run_receive]
  rcases (route w f).run d.countReceived with ⟨e | _, t⟩
  · show view (if e.isProtocol then t.countDropped else t) = view t
    split
    · exact hview (fun c => { c with dropped := c.dropped + 1 }) t
    · rfl
  · rfl

/-! ## Reading and checking -/

/-- Attributes a message to a peer and hands it on. -/
def handOn (f : Inbound) (m : Message) : Act (Dispatcher W) Unit := do
  let peer ← resolveSender w f.sender f.media m.kind
  onPeers (PeerStore.recordReceive peer f.media true)
  take w peer { m with media := some f.media, peer := some peer }

theorem run_route_unreadable {f : Inbound} {e : FrameError} (h : Frame.parse? f.bytes = .error e)
    (d : Dispatcher W) : (route w f).run d = (.error (.frame e), d) := by
  unfold route
  rw [h]
  rfl

theorem run_route {f : Inbound} {m : Message} (h : Frame.parse? f.bytes = .ok m) (d : Dispatcher W) :
    (route w f).run d =
      ((if f.checked then checkIntegrity f >>= fun _ => handOn w f m else handOn w f m)).run d := by
  unfold route
  rw [h]
  cases f.checked <;> rfl

theorem run_findSender? (sender : Sender) (d : Dispatcher W) :
    (findSender? sender).run d =
      (if d.peers.held then .error (.lockTimeout "peer store")
        else .ok ((d.peers.ofSender? sender).map (·.handle)), d) := by
  cases sender <;>
    exact congrArg (fun r => (r.1, { d with peers := r.2 })) (PeerStore.run_find? _ d.peers)

theorem run_checkIntegrity_sound {f : Inbound} {c : UInt32} (h : Frame.verify f.bytes = .ok c)
    (d : Dispatcher W) : (checkIntegrity f).run d = (.ok (), d) := by
  unfold checkIntegrity
  rw [h]
  rfl

/-- A frame that is sound, or not checked, is handed on. -/
theorem run_route_sound {f : Inbound} {m : Message} (h : Frame.parse? f.bytes = .ok m)
    (hsound : f.checked = true → ∃ c, Frame.verify f.bytes = .ok c) (d : Dispatcher W) :
    (route w f).run d = (handOn w f m).run d := by
  rw [run_route w h]
  split
  · next hc =>
    obtain ⟨c, hv⟩ := hsound hc
    exact run_bind_ok (run_checkIntegrity_sound hv d)
  · rfl

/-- Where a damaged frame is checked it ends, in one of three ways: the peers cannot be looked at, the
sender is not among them, or it is and is charged. -/
theorem run_checkIntegrity_damaged {f : Inbound} {e : FrameError} (h : Frame.verify f.bytes = .error e)
    (d : Dispatcher W) :
    (d.peers.held = true ∧ (checkIntegrity f).run d = (.error (.lockTimeout "peer store"), d)) ∨
    (d.peers.held = false ∧ d.peers.ofSender? f.sender = none ∧
      (checkIntegrity f).run d = (.error (.frame e), d.countDropped)) ∨
    (d.peers.held = false ∧ ∃ p slots, d.peers.ofSender? f.sender = some p ∧
      PeerStore.ChangedAt p.handle (fun q => some (q.chargeReceive f.media)) d.peers.slots slots ∧
      (checkIntegrity f).run d =
        (.error (.frame e),
          ({ d with peers := { d.peers with slots } } : Dispatcher W).countDropped)) := by
  have hfind := run_findSender? (W := W) f.sender d
  unfold checkIntegrity
  rw [h]
  cases hheld : d.peers.held with
  | true =>
    rw [hheld] at hfind
    exact .inl ⟨rfl, run_bind_error hfind⟩
  | false =>
    rw [hheld] at hfind
    cases hs : d.peers.ofSender? f.sender with
    | none =>
      rw [hs] at hfind
      exact .inr (.inl ⟨rfl, rfl, run_bind_ok hfind⟩)
    | some p =>
      rw [hs] at hfind
      -- the sender has just been found, so that charging it cannot fail
      rcases PeerStore.run_update p.handle (·.updateStats f.media (·.recordReceive false)) d.peers with
        ⟨hh, -⟩ | ⟨-, hnone, -⟩ | ⟨-, q, slots, -, hslots, hrun⟩
      · rw [hheld] at hh
        cases hh
      · exact absurd hnone (PeerStore.ofHandle?_of_ofSender? hs)
      · refine .inr (.inr ⟨rfl, p, slots, rfl, hslots, ?_⟩)
        exact (run_bind_ok hfind).trans (run_bind_ok (run_onPeers hrun))

/-- What counts leave alone is left alone by the check too, but for a sender that is charged. -/
theorem view_checkIntegrity {γ : Type} {view : Dispatcher W → γ} (hview : ∀ g, Keeps view (count g))
    {f : Inbound} {d : Dispatcher W}
    (hcharge : ∀ p, d.peers.ofSender? f.sender = some p →
      Keeps view (onPeers (PeerStore.recordReceive p.handle f.media false))) :
    view ((checkIntegrity f).run d).2 = view d := by
  unfold checkIntegrity
  split
  · rfl
  · rw [run_bind, run_findSender?]
    cases d.peers.held with
    | true => rfl
    | false =>
      cases hs : d.peers.ofSender? f.sender with
      | none => exact (hview _).bind (fun _ => Keeps.fail _) d
      | some p => exact (hcharge p hs).bind (fun _ => (hview _).bind fun _ => Keeps.fail _) d

theorem run_findAddress? (a : Address) (d : Dispatcher W) :
    (onPeers (PeerStore.findAddress? a)).run d =
      (if d.peers.held then .error (.lockTimeout "peer store")
        else .ok ((d.peers.ofSender? (.address a)).map (·.handle)), d) :=
  run_findSender? (.address a) d

/-- The dispatcher with this peer added to its own. -/
def joined (d : Dispatcher W) (p : Peer) : Dispatcher W :=
  { d with
    peers :=
      { d.peers with
        slots := PeerStore.place p d.peers.slots
        nextHandle := d.peers.nextHandle + 1 } }

/-- A peer is learned under the next handle, or not at all. -/
theorem learn_cases (a : Address) (m : Media) (d : Dispatcher W) :
    (∃ e, (learn a m).run d = (.error e, d) ∧ e.isIntake = false) ∨
    (∃ p, d.peers.Admits p ∧ p.address = a ∧ (learn a m).run d = (.ok p.handle, d.joined p)) := by
  unfold learn
  rcases PeerStore.add_cases (shortName a) a (.singleton m) d.peers with
    ⟨e, hrun, he⟩ | ⟨p, hp, ha, hrun⟩
  · rw [run_bind_attempt (run_onPeers hrun)]
    cases e
    case peerExists text =>
      -- the short name may be taken by another peer, and then the full one is tried
      simp only []
      rw [run_bind, run_findAddress?]
      cases d.peers.held with
      | true => exact .inl ⟨_, rfl, rfl⟩
      | false =>
        cases d.peers.ofSender? (.address a) with
        | some p => exact .inl ⟨_, rfl, rfl⟩
        | none =>
          rcases PeerStore.add_cases (fullName a) a (.singleton m) d.peers with
            ⟨e, hrun, he⟩ | ⟨p, hp, ha, hrun⟩
          · exact .inl ⟨e, run_onPeers hrun, he⟩
          · exact .inr ⟨p, hp, ha, run_onPeers hrun⟩
    all_goals exact .inl ⟨_, rfl, he⟩
  · rw [run_bind_attempt (run_onPeers hrun)]
    exact .inr ⟨p, hp, ha, rfl⟩

/-- What becomes of a frame whose sender is not known. -/
def newcomer (m : Media) (kind : Kind) : Sender → Act (Dispatcher W) Handle
  | .relation r => Act.fail (.unknownRelation r)
  | .address a => do
    let handle ← learn a m
    if kind ≠ .handshake then
      let _ ← Act.attempt (handshake w handle)
    pure handle

theorem resolveSender_eq (sender : Sender) (m : Media) (kind : Kind) :
    resolveSender w sender m kind = findSender? sender >>= fun found =>
      match found with
      | some handle => pure handle
      | none => newcomer w m kind sender := by
  cases sender <;> rfl

theorem run_resolveSender_known {sender : Sender} {d : Dispatcher W} {p : Peer}
    (h : d.peers.ofSender? sender = some p) (m : Media) (kind : Kind) :
    (resolveSender w sender m kind).run d =
      (if d.peers.held then .error (.lockTimeout "peer store") else .ok p.handle, d) := by
  rw [resolveSender_eq, run_bind, run_findSender?, h]
  cases d.peers.held <;> rfl

theorem run_resolveSender_free {sender : Sender} {d : Dispatcher W} {p : Peer}
    (free : d.peers.held = false) (h : d.peers.ofSender? sender = some p) (m : Media) (kind : Kind) :
    (resolveSender w sender m kind).run d = (.ok p.handle, d) := by
  rw [run_resolveSender_known w h, free]
  rfl

/-- The dispatcher once a new peer is taken in: it is greeted, unless it comes with a handshake. -/
def welcomed (kind : Kind) (p : Peer) (d : Dispatcher W) : Dispatcher W :=
  if kind = .handshake then d.joined p else ((handshake w p.handle).run (d.joined p)).2

theorem run_newcomer {a : Address} {m : Media} {kind : Kind} {p : Peer} {d : Dispatcher W}
    (h : (learn a m).run d = (.ok p.handle, d.joined p)) :
    (newcomer w m kind (.address a)).run d = (.ok p.handle, welcomed w kind p d) := by
  refine (run_bind_ok h).trans ?_
  unfold welcomed
  by_cases hk : kind = .handshake
  · rw [if_pos hk, if_neg fun h => h hk]
    rfl
  · rw [if_neg hk, if_pos hk]
    rfl

/-- A sender stands for the peer with a handle: it is known, or else it was learned and welcomed. -/
inductive Met (sender : Sender) (kind : Kind) (d : Dispatcher W) : Handle → Dispatcher W → Prop
  | known {p : Peer} (free : d.peers.held = false) (found : d.peers.ofSender? sender = some p) :
      Met sender kind d p.handle d
  | learned {p : Peer} (free : d.peers.held = false) (new : d.peers.ofSender? sender = none)
      (address : sender = .address p.address) (admitted : d.peers.Admits p) :
      Met sender kind d p.handle (welcomed w kind p d)

/-- A frame is attributed to a peer, or to nobody, and then nothing has happened. -/
theorem resolveSender_cases (sender : Sender) (m : Media) (kind : Kind) (d : Dispatcher W) :
    (∃ e, (resolveSender w sender m kind).run d = (.error e, d) ∧ e.isIntake = false) ∨
    (∃ h t, Met w sender kind d h t ∧ (resolveSender w sender m kind).run d = (.ok h, t)) := by
  cases hs : d.peers.ofSender? sender with
  | some p =>
    rw [run_resolveSender_known w hs]
    cases hheld : d.peers.held with
    | true => exact .inl ⟨_, rfl, rfl⟩
    | false => exact .inr ⟨_, _, .known hheld hs, rfl⟩
  | none =>
    rw [resolveSender_eq, run_bind, run_findSender?, hs]
    cases hheld : d.peers.held with
    | true => exact .inl ⟨_, rfl, rfl⟩
    | false =>
      cases sender with
      | relation r => exact .inl ⟨_, rfl, rfl⟩
      | address a =>
        rcases learn_cases a m d with ⟨e, hrun, he⟩ | ⟨p, hp, rfl, hrun⟩
        · exact .inl ⟨e, run_bind_error hrun, he⟩
        · exact .inr ⟨_, _, .learned hheld hs rfl hp, run_newcomer w hrun⟩

namespace Met

variable {w} {sender : Sender} {kind : Kind} {d t : Dispatcher W} {h : Handle}

theorem attribution (hm : Met w sender kind d h t) : h = d.peers.attribution sender := by
  cases hm with
  | known _ found => rw [PeerStore.attribution, found]
  | learned _ new _ admitted => rw [PeerStore.attribution, new, ← admitted.handle]

/-- Nobody else holds the peers, and this peer is among them. -/
theorem has (hm : Met w sender kind d h t) : t.peers.Has h := by
  cases hm with
  | known free found => exact ⟨free, PeerStore.ofHandle?_of_ofSender? found⟩
  | @learned p free _ _ _ =>
    have hjoined : (d.joined p).peers.Has p.handle := by
      refine ⟨free, fun hnone => ?_⟩
      have hmem : p ∈ (d.joined p).peers.peers :=
        (PeerStore.peers_place (s := d.peers) rfl).symm.subset (.head _)
      exact (PeerStore.ofHandle?_eq_none_iff _ _).1 hnone p ((PeerStore.mem_peers_iff _ _).1 hmem) rfl
    unfold welcomed
    split
    · exact hjoined
    · exact hjoined.of_roster
        (congrArg (fun v => v.2.2.2) ((spared_still p.handle).handshake w (d.joined p)))

/-- What greeting a peer and adding one leave alone is left alone. -/
theorem view {γ : Type} {view : Dispatcher W → γ} (hm : Met w sender kind d h t)
    (hspared : Spared view h) (hjoined : ∀ p, p.handle = h → view (d.joined p) = view d) :
    view t = view d := by
  cases hm with
  | known _ _ => rfl
  | @learned p _ _ _ _ =>
    unfold welcomed
    split
    · exact hjoined p rfl
    · exact (hspared.handshake w (d.joined p)).trans (hjoined p rfl)

theorem conversations (hm : Met w sender kind d h t) : t.conversations = d.conversations := by
  have hspared := (spared_still (W := W) h).comp Prod.fst
  exact hm.view hspared fun _ _ => rfl

theorem orchestrator (hm : Met w sender kind d h t) : t.orchestrator = d.orchestrator := by
  have hspared := (spared_still (W := W) h).comp fun v => v.2.2.1
  exact hm.view hspared fun _ _ => rfl

end Met

/-- The dispatcher with one more frame heard from a peer. -/
def heard (m : Media) (h : Handle) (d : Dispatcher W) : Dispatcher W :=
  ((onPeers (PeerStore.recordReceive h m true)).run d).2

/-- A message that is attributed to nobody changes nothing; else it goes to the handler of its kind,
and its peer has been heard. -/
theorem run_handOn (f : Inbound) (m : Message) (d : Dispatcher W) :
    (∃ e, (resolveSender w f.sender f.media m.kind).run d = (.error e, d) ∧
      (handOn w f m).run d = (.error e, d) ∧ e.isIntake = false) ∨
    (∃ h t, (resolveSender w f.sender f.media m.kind).run d = (.ok h, t) ∧
      Met w f.sender m.kind d h t ∧ (handOn w f m).run d =
        (take w h { m with media := some f.media, peer := some h }).run (t.heard f.media h)) := by
  unfold handOn
  rcases resolveSender_cases w f.sender f.media m.kind d with ⟨e, hrun, he⟩ | ⟨h, t, hmet, hrun⟩
  · exact .inl ⟨e, hrun, run_bind_error hrun, he⟩
  · obtain ⟨s, hs⟩ : ∃ s, (PeerStore.recordReceive h f.media true).run t.peers = (.ok (), s) :=
      PeerStore.update_ok hmet.has _
    have hheard := run_onPeers hs
    refine .inr ⟨h, t, hrun, hmet, (run_bind_ok hrun).trans ((run_bind_ok hheard).trans ?_)⟩
    rw [heard, hheard]

/-! ## All that can become of a frame -/

/-- The frame is read as this message, its checksum is right if that is checked, and its sender is
this peer, which leaves the dispatcher in this state. -/
structure Routed (f : Inbound) (d : Dispatcher W) (m : Message) (peer : Handle) (t : Dispatcher W) :
    Prop where
  read : Frame.parse? f.bytes = .ok m
  sound : f.checked = true → ∃ c, Frame.verify f.bytes = .ok c
  sender : (resolveSender w f.sender f.media m.kind).run d = (.ok peer, t)

theorem Routed.run_route {w : Wiring W} {f : Inbound} {d t : Dispatcher W} {m : Message}
    {peer : Handle} (h : Routed w f d m peer t) :
    (route w f).run d =
      (take w peer { m with media := some f.media, peer := some peer }).run (t.heard f.media peer) := by
  rw [run_route_sound w h.read h.sound]
  rcases run_handOn w f m d with ⟨e, hsender, -, -⟩ | ⟨peer', t', hsender, -, hrun⟩
  · cases hsender.symm.trans h.sender
  · cases hsender.symm.trans h.sender
    exact hrun

/-- The ways that a frame can go, with what it comes to. -/
inductive Way (f : Inbound) (d : Dispatcher W) : Except Error Unit × Dispatcher W → Prop
  | unreadable {e : FrameError} (read : Frame.parse? f.bytes = .error e) :
      Way f d (.error (.frame e), d)
  | damaged {m : Message} {e : FrameError} {e' : Error} {t : Dispatcher W}
      (read : Frame.parse? f.bytes = .ok m) (checked : f.checked = true)
      (damage : Frame.verify f.bytes = .error e)
      (refused : (checkIntegrity f).run d = (.error e', t)) : Way f d (.error e', t)
  | unattributed {m : Message} {e : Error} (read : Frame.parse? f.bytes = .ok m)
      (sound : f.checked = true → ∃ c, Frame.verify f.bytes = .ok c)
      (sender : (resolveSender w f.sender f.media m.kind).run d = (.error e, d))
      (fault : e.isIntake = false) : Way f d (.error e, d)
  | taken {m : Message} {h : Handle} {t : Dispatcher W} (routed : Routed w f d m h t)
      (met : Met w f.sender m.kind d h t) :
      Way f d ((take w h { m with media := some f.media, peer := some h }).run (t.heard f.media h))

theorem way (f : Inbound) (d : Dispatcher W) : Way w f d ((route w f).run d) := by
  cases hm : Frame.parse? f.bytes with
  | error e =>
    rw [run_route_unreadable w hm]
    exact .unreadable hm
  | ok m =>
    have hrest (hsound : f.checked = true → ∃ c, Frame.verify f.bytes = .ok c) :
        Way w f d ((route w f).run d) := by
      rcases run_handOn w f m d with ⟨e, hsender, hrun, he⟩ | ⟨h, t, hsender, hmet, -⟩
      · rw [run_route_sound w hm hsound, hrun]
        exact .unattributed hm hsound hsender he
      · have hrouted : Routed w f d m h t := ⟨hm, hsound, hsender⟩
        rw [hrouted.run_route]
        exact .taken hrouted hmet
    cases hc : f.checked with
    | false => exact hrest fun h => absurd (hc.symm.trans h) Bool.noConfusion
    | true =>
      cases hv : Frame.verify f.bytes with
      | ok c => exact hrest fun _ => ⟨c, hv⟩
      | error e =>
        rw [run_route w hm, if_pos hc]
        rcases hrun : (checkIntegrity f).run d with ⟨e' | _, t⟩
        · rw [run_bind_error hrun]
          exact .damaged hm hc hv hrun
        · rcases run_checkIntegrity_damaged hv d with ⟨-, h⟩ | ⟨-, -, h⟩ | ⟨-, p, slots, -, -, h⟩
          all_goals
            rw [hrun] at h
            cases h

/-! ## Nodes that have done nothing yet -/

/-- A node that knows nobody. -/
def alone (self : Address) (capacity : Nat) (world : W) : Dispatcher W where
  peers := .new self 4
  queue := { settings := { capacity } }
  orchestrator := .make {} 0
  world

/-- A node that knows the node at another address, on a wired bus. -/
def knowing (self other : Address) (capacity : Nat) (world : W) : Dispatcher W where
  peers :=
    { localAddress := self
      capacity := 1
      slots := [some (Peer.make ⟨1⟩ "peer" other (.singleton .busCan) self)]
      nextHandle := 2 }
  queue := { settings := { capacity } }
  orchestrator := .make {} 0
  world

end Dispatcher

end Multilink
