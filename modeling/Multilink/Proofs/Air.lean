import Multilink.Proofs.Conversations
import Multilink.Proofs.Sending
/-!
# What goes on the air

`Wiring.onAir` lets any drivers keep a record of the frames they take on. It assumes one thing of
them, that a driver which refuses a frame lets nothing out. Sending tries again after a refusal, on
the same medium or another, and `Dispatcher.run_trySend_onAir` says that it lets out one frame all the
same if it succeeds, and none if it fails.
-/

namespace Multilink

/-- A frame that a driver has taken on. -/
structure Parcel where
  target : Address
  media : Media
  bytes : Bytes
  deriving DecidableEq, Repr

/-- The world of drivers that keep a record. -/
structure Air (V : Type) where
  /-- The world of the drivers themselves. -/
  links : V
  /-- The frames taken on, in their order. -/
  taken : List Parcel := []

variable {V α : Type}

/-- The driver with a record of the frames that it takes on. -/
def Driver.onAir (d : Driver V) : Driver (Air V) where
  carries := d.carries
  maxFrame a := d.maxFrame a.links
  send target m bytes a :=
    match d.send target m bytes a.links with
    | (.ok (), links) => (.ok (), { links, taken := a.taken ++ [⟨target, m, bytes⟩] })
    | (.error e, links) => (.error e, { a with links })
  speed? target a := d.speed? target a.links

/-- The wiring with a record of the frames that its drivers take on. -/
def Wiring.onAir (w : Wiring V) : Wiring (Air V) where
  name := w.name
  attempts := w.attempts
  version := w.version
  drivers := w.drivers.map (·.onAir)
  filters := w.filters
  onPriority := w.onPriority.map fun handle m a => { a with links := handle m a.links }
  profiles := w.profiles

theorem Wiring.onAir_carrier? {w : Wiring V} {m : Media} {length : Nat} {world : Air V}
    {driver : Driver (Air V)} (h : w.onAir.carrier? m length world = some driver) :
    ∃ d : Driver V, driver = d.onAir := by
  obtain ⟨d, -, hd⟩ := List.mem_map.1 (List.mem_of_find?_eq_some h)
  exact ⟨d, hd.symm⟩

theorem Driver.send_onAir (d : Driver V) (target : Address) (m : Media) (bytes : Bytes) (a : Air V) :
    (∃ b, d.onAir.send target m bytes a = (.ok (), b) ∧ b.taken = a.taken ++ [⟨target, m, bytes⟩]) ∨
    (∃ e b, d.onAir.send target m bytes a = (.error e, b) ∧ b.taken = a.taken) := by
  rcases hs : d.send target m bytes a.links with ⟨e | _, links⟩
  · exact .inr ⟨e, { a with links }, by simp only [onAir, hs], rfl⟩
  · exact .inl ⟨⟨links, _⟩, by simp only [onAir, hs], rfl⟩

/-- The store knows a node: it has it under a handle with this address, and finds it by the
address. -/
structure PeerStore.Knows (s : PeerStore) (peer : Handle) (a : Address) : Prop where
  address : (s.ofHandle? peer).map (·.address) = some a
  sender : (s.ofSender? (.address a)).map (·.handle) = some peer

theorem PeerStore.Knows.of_roster {s t : PeerStore} {peer : Handle} {a : Address} (h : s.Knows peer a)
    (ht : t.roster = s.roster) : t.Knows peer a :=
  ⟨(ofHandle?_address_of_roster ht peer).trans h.address,
    (ofSender?_handle_of_roster ht (.address a)).trans h.sender⟩

namespace Dispatcher

open Act

variable (w : Wiring V)

/-! ## The parts of an attempt -/

theorem keeps_world_onPeers {W : Type} (x : Act PeerStore α) :
    Keeps world (onPeers x : Act (Dispatcher W) α) := fun _ => rfl

theorem keeps_world_noteFailed {W : Type} (peer : Handle) (m : Media) :
    Keeps world (noteFailed peer m : Act (Dispatcher W) Unit) :=
  Keeps.bind (fun _ => rfl) fun _ => keeps_world_onPeers _

/-- Picking a medium fails, or finds the peer and tells its address. -/
theorem run_select {W : Type} {peer : Handle} {a : Address} {d : Dispatcher W}
    (h : (d.peers.ofHandle? peer).map (·.address) = some a) (profiles : Profiles) (now : Micros)
    (length : Nat) (usable : MediaSet) :
    (∃ e, (onPeers (PeerStore.select profiles now peer length usable)).run d = (.error e, d)) ∨
    (∃ m peers, peers.Has peer ∧ peers.roster = d.peers.roster ∧
      (onPeers (PeerStore.select profiles now peer length usable)).run d =
        (.ok (m, a), { d with peers })) := by
  have hroster := PeerStore.keeps_roster_select profiles now peer length usable d.peers
  rcases PeerStore.run_onSlot peer
      (fun p => (((Peer.select? profiles now length usable p).1, p.address),
        some (Peer.select? profiles now length usable p).2)) d.peers with
    ⟨-, hrun⟩ | ⟨-, -, hrun⟩ | ⟨hheld, p, slots, hp, -, hrun⟩
  · exact .inl ⟨_, run_onPeers hrun⟩
  · exact .inl ⟨_, run_onPeers hrun⟩
  · have hhas : d.peers.Has peer := ⟨hheld, by rw [hp]; nofun⟩
    rw [hp, Option.map_some, Option.some.injEq] at h
    subst h
    have hroster := (congrArg (fun r => PeerStore.roster r.2) hrun).symm.trans hroster
    exact .inr ⟨_, _, hhas.of_roster hroster, hroster, run_onPeers hrun⟩

/-- Noting a frame that was sent to a live peer cannot fail. -/
theorem run_noteSent {W : Type} {peer : Handle} {d : Dispatcher W} (h : d.peers.Has peer)
    (driver : Driver W) (target : Address) (m : Media) :
    ∃ t, (noteSent driver peer target m).run d = (.ok (), t) ∧ t.world = d.world := by
  obtain ⟨s, hs⟩ : ∃ s, (PeerStore.recordSend peer m true).run d.peers = (.ok (), s) :=
    PeerStore.update_ok h _
  have hroster := PeerStore.keeps_roster_recordSend peer m true d.peers
  unfold noteSent
  rw [run_bind_ok (run_onPeers hs), run_bind_ok (run_get _)]
  cases driver.speed? target d.world with
  | none => exact ⟨_, rfl, rfl⟩
  | some speed =>
    have hhas : s.Has peer :=
      h.of_roster ((congrArg (fun r => PeerStore.roster r.2) hs).symm.trans hroster)
    obtain ⟨s', hs'⟩ : ∃ s', (PeerStore.recordSpeed peer m speed).run s = (.ok (), s') :=
      PeerStore.update_ok hhas _
    exact ⟨_, run_bind_ok (run_onPeers (d := { d with peers := s }) hs'), rfl⟩

/-! ## Sending -/

/-- However many attempts it takes, a frame that is sent went out once, to the address of the peer, and
one that is not did not go out. -/
theorem run_trySend_onAir {peer : Handle} {a : Address} (bytes : Bytes) (usable : MediaSet) (n : Nat)
    (d : Dispatcher (Air V)) (h : (d.peers.ofHandle? peer).map (·.address) = some a) :
    (∃ m t, (trySend w.onAir peer bytes usable n).run d = (.ok m, t) ∧
      t.world.taken = d.world.taken ++ [⟨a, m, bytes⟩]) ∨
    (∃ e t, (trySend w.onAir peer bytes usable n).run d = (.error e, t) ∧
      t.world.taken = d.world.taken) := by
  induction n generalizing d with
  | zero => exact .inr ⟨_, d, rfl, rfl⟩
  | succ n ih =>
    unfold trySend
    rw [run_bind_ok (show now.run d = (.ok d.orchestrator.clock, d) from rfl)]
    rcases run_select h w.onAir.profiles d.orchestrator.clock bytes.length usable with
      ⟨e, hrun⟩ | ⟨media, peers, hhas, hroster, hrun⟩
    · exact .inr ⟨e, d, run_bind_error hrun, rfl⟩
    · rw [run_bind_ok hrun]
      cases media with
      | none => exact .inr ⟨_, _, rfl, rfl⟩
      | some m =>
        simp only []
        rw [run_bind_ok (run_get _)]
        split
        · exact .inr ⟨_, _, rfl, rfl⟩
        · next driver hcarrier =>
          obtain ⟨driver, rfl⟩ := Wiring.onAir_carrier? hcarrier
          rcases driver.send_onAir a m bytes d.world with ⟨b, hsend, hb⟩ | ⟨e, b, hsend, hb⟩
          · have htransmit : (transmit driver.onAir a m bytes).run { d with peers } =
                (.ok (.ok ()), { d with peers, world := b }) := by
              simp only [transmit, Act.run, hsend]
            obtain ⟨t, ht, hworld⟩ :=
              run_noteSent (d := { d with peers, world := b }) hhas driver.onAir a m
            rw [run_bind_ok htransmit]
            refine .inl ⟨m, t, run_bind_ok ht, ?_⟩
            rw [hworld, hb]
          · have htransmit : (transmit driver.onAir a m bytes).run { d with peers } =
                (.ok (.error e), { d with peers, world := b }) := by
              simp only [transmit, Act.run, hsend]
            rw [run_bind_ok htransmit]
            have hworld := keeps_world_noteFailed peer m { d with peers, world := b }
            have hstill := (spared_still peer).noteFailed m { d with peers, world := b }
            rcases hnote : (noteFailed peer m).run { d with peers, world := b } with ⟨e | _, t⟩
            · rw [hnote] at hworld
              refine .inr ⟨e, t, run_bind_error hnote, ?_⟩
              rw [hworld, hb]
            · rw [hnote] at hworld hstill
              have hworld : t.world = b := hworld
              -- the peers are still the same, so that the next attempt goes to the same address
              have hpeers : t.peers.roster = d.peers.roster :=
                (congrArg (fun v => v.2.2.2) hstill).trans hroster
              rcases ih t ((PeerStore.ofHandle?_address_of_roster hpeers peer).trans h) with
                ⟨m', t', hrun', ht'⟩ | ⟨e, t', hrun', ht'⟩
              · refine .inl ⟨m', t', (run_bind_ok hnote).trans hrun', ?_⟩
                rw [ht', hworld, hb]
              · refine .inr ⟨e, t', (run_bind_ok hnote).trans hrun', ?_⟩
                rw [ht', hworld, hb]

theorem run_send_onAir {peer : Handle} {a : Address} (kind : Kind) (id : UInt16) (payload : Bytes)
    (d : Dispatcher (Air V)) (h : (d.peers.ofHandle? peer).map (·.address) = some a) :
    (∃ m t, (send w.onAir peer kind id payload).run d = (.ok m, t) ∧ t.still = d.still ∧
      t.world.taken = d.world.taken ++ [⟨a, m, Frame.build kind id payload⟩]) ∨
    (∃ e t, (send w.onAir peer kind id payload).run d = (.error e, t) ∧ t.still = d.still ∧
      t.world.taken = d.world.taken) := by
  have hstill := (spared_still peer).send w.onAir kind id payload d
  unfold send sendMessage at hstill ⊢
  rw [run_bind_ok (run_get d)] at hstill ⊢
  rcases run_trySend_onAir w (Frame.build kind id payload) _ w.onAir.attempts d h with
    ⟨m, t, ht, htaken⟩ | ⟨e, t, ht, htaken⟩
  · rw [ht] at hstill
    exact .inl ⟨m, t, ht, hstill, htaken⟩
  · rw [ht] at hstill
    exact .inr ⟨e, t, ht, hstill, htaken⟩

/-- A conversation is open exactly if its first message went out. -/
theorem run_startConversation_onAir {peer : Handle} {a : Address} (kind : Kind) (reason : String)
    (payload : Bytes) (d : Dispatcher (Air V))
    (h : (d.peers.ofHandle? peer).map (·.address) = some a) :
    (∃ id m t, (startConversation w.onAir peer kind reason payload).run d = (.ok id, t) ∧
      d.conversations.find? peer id = none ∧
      t.conversations.opened = d.conversations.opened ++ [⟨id, peer, reason, true⟩] ∧
      t.peers.roster = d.peers.roster ∧
      t.world.taken = d.world.taken ++ [⟨a, m, Frame.build kind id payload⟩]) ∨
    (∃ e t, (startConversation w.onAir peer kind reason payload).run d = (.error e, t) ∧
      t.conversations.opened = d.conversations.opened ∧ t.peers.roster = d.peers.roster ∧
      t.world.taken = d.world.taken) := by
  have hstarted := started w.onAir peer kind reason payload d
  generalize (startConversation w.onAir peer kind reason payload).run d = o at hstarted ⊢
  cases hstarted with
  | full => exact .inr ⟨_, _, rfl, rfl, rfl, rfl⟩
  | @sent id next m t hfree hsend =>
    rcases run_send_onAir w kind id payload (d.begun peer reason id next) h with
      ⟨m', t', ht, hstill, htaken⟩ | ⟨e, t', ht, -, -⟩
    all_goals cases hsend.symm.trans ht
    exact .inl ⟨id, m, t, rfl, hfree, congrArg (fun v => v.1.opened) hstill,
      congrArg (fun v => v.2.2.2) hstill, htaken⟩
  | @unsent id next e t hfree hsend =>
    rcases run_send_onAir w kind id payload (d.begun peer reason id next) h with
      ⟨m, t', ht, -, -⟩ | ⟨e', t', ht, hstill, htaken⟩
    all_goals cases hsend.symm.trans ht
    exact .inr ⟨e, _, rfl, rfl, congrArg (fun v => v.2.2.2) hstill, htaken⟩

/-- Answering a request ends the conversation of the peer, and one reply goes out or none. -/
theorem run_reply_onAir {peer : Handle} {a : Address} {m : Message} (hm : m.peer = some peer)
    (hk : m.kind = .request) (payload : Bytes) (d : Dispatcher (Air V))
    (h : (d.peers.ofHandle? peer).map (·.address) = some a) :
    ∃ r t, (reply w.onAir m payload).run d = (r, t) ∧
      t.conversations = ((Tracker.closeTheirs peer m.conversation).run d.conversations).2 ∧
      t.peers.roster = d.peers.roster ∧
      ((r = .ok () ∧ ∃ media, t.world.taken =
          d.world.taken ++ [⟨a, media, Frame.build .reply m.conversation payload⟩]) ∨
        ((∃ e, r = .error e) ∧ t.world.taken = d.world.taken)) := by
  unfold reply
  rw [hm]
  simp only [hk, if_true]
  rcases run_send_onAir w .reply m.conversation payload d h with
    ⟨media, t, ht, hstill, htaken⟩ | ⟨e, t, ht, hstill, htaken⟩
  · rw [run_bind_attempt ht]
    rw [← show t.conversations = d.conversations from congrArg Prod.fst hstill]
    exact ⟨_, _, rfl, rfl, congrArg (fun v => v.2.2.2) hstill, .inl ⟨rfl, media, htaken⟩⟩
  · rw [run_bind_attempt ht]
    rw [← show t.conversations = d.conversations from congrArg Prod.fst hstill]
    exact ⟨_, _, rfl, rfl, congrArg (fun v => v.2.2.2) hstill, .inr ⟨⟨e, rfl⟩, htaken⟩⟩

end Dispatcher

end Multilink
