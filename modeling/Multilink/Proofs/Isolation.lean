import Multilink.Proofs.Calls
import Multilink.Proofs.Outgoing
/-!
# Peers do not disturb each other

What a call does is about one peer. `Dispatcher.others` is everything that a dispatcher has about all
the others: who they are and what was measured of them, in full, and the conversations with them. Every
step that a call is made of leaves this alone, so every call does, a frame among them whatever is in
it; and what is sent goes to this one peer.
-/

namespace Multilink

open Act

variable {V W α : Type} {h : Handle}

/-! ## The other peers -/

namespace PeerStore

variable {s : PeerStore}

/-- The live peers but for the one with a handle. -/
def others (h : Handle) (s : PeerStore) : List Peer :=
  s.peers.filter (·.handle != h)

theorem others_changedAt {f : Peer → Option Peer} {slots : List (Option Peer)}
    (hc : ChangedAt h f s.slots slots) (hf : ∀ p q, f p = some q → q.handle = p.handle) :
    ({ s with slots } : PeerStore).others h = s.others h := by
  obtain ⟨before, p, after, hs, -, hp, rfl⟩ := hc
  cases hfp : f p with
  | none => simp [others, peers, hs, hp]
  | some q => simp [others, peers, hs, hp, hf p q hfp]

theorem keeps_others_onSlot {f : Peer → α × Option Peer}
    (hf : ∀ p q, (f p).2 = some q → q.handle = p.handle) : Keeps (others h) (onSlot h f) := by
  intro s
  rcases run_onSlot h f s with ⟨-, hrun⟩ | ⟨-, -, hrun⟩ | ⟨-, p, slots, -, hc, hrun⟩
  · rw [hrun]
  · rw [hrun]
  · rw [hrun]
    exact others_changedAt hc hf

theorem keeps_others_withPeer {f : Peer → α × Peer} (hf : ∀ p, (f p).2.identity = p.identity) :
    Keeps (others h) (withPeer h f) :=
  keeps_others_onSlot fun p q hq => by
    cases hq
    exact congrArg Identity.handle (hf p)

theorem keeps_others_updateIdentity (name : Option String) (media : MediaSet) (version : Version) :
    Keeps (others h) (updateIdentity h name media version) := fun s =>
  keeps_others_withPeer (fun p => identity_introduce _ media version p) s

theorem others_place {p : Peer} (hp : p.handle = h) (slots : List (Option Peer)) :
    ((place p slots).filterMap id).filter (·.handle != h) =
      (slots.filterMap id).filter (·.handle != h) := by
  induction slots with
  | nil => simp [place, hp]
  | cons slot rest ih =>
    cases slot with
    | none => simp [place, hp]
    | some q =>
      show (q :: (place p rest).filterMap id).filter _ = (q :: rest.filterMap id).filter _
      rw [List.filter_cons, List.filter_cons, ih]

end PeerStore

/-! ## The other conversations -/

namespace Tracker

variable {t : Tracker}

/-- The open conversations but for those with a peer. -/
def others (h : Handle) (t : Tracker) : List Conversation :=
  t.opened.filter (·.peer != h)

theorem others_append {c : Conversation} (hc : c.peer = h) (next : UInt16) :
    ({ opened := t.opened ++ [c], nextId := next } : Tracker).others h = t.others h := by
  simp [others, hc]

theorem others_erase {c : Conversation} (hc : c.peer = h) :
    ({ t with opened := t.opened.erase c } : Tracker).others h = t.others h := by
  by_cases hmem : c ∈ t.opened
  · obtain ⟨before, after, -, hsplit, herase⟩ := List.exists_erase_eq hmem
    simp only [others, herase]
    rw [hsplit]
    simp [hc]
  · rw [List.erase_of_not_mem hmem]

theorem keeps_others_openOurs (reason : String) : Keeps (others h) (openOurs h reason) := by
  intro t
  rcases run_openOurs h reason t with ⟨next, hrun⟩ | ⟨id, next, -, hrun⟩
  · rw [hrun]
    rfl
  · rw [hrun]
    exact others_append (c := ⟨id, h, reason, true⟩) rfl next

theorem keeps_others_openTheirs (id : UInt16) (reason : String) :
    Keeps (others h) (openTheirs h id reason) := by
  intro t
  cases hf : t.find? h id with
  | none =>
    rw [run_openTheirs_free hf]
    exact others_append (c := ⟨id, h, reason, false⟩) rfl t.nextId
  | some c => rw [run_openTheirs_taken hf]

theorem keeps_others_closeIf (id : UInt16) (test : Conversation → Bool) :
    Keeps (others h) (closeIf h id test) := by
  intro t
  rcases run_closeIf h id test t with ⟨c, hc, -, hrun⟩ | ⟨-, hrun⟩
  · rw [hrun]
    exact others_erase (congrArg Prod.fst (mem_of_find? hc).2)
  · rw [hrun]

theorem keeps_others_closeAll : Keeps (others h) (closeAll h) := by
  intro t
  simp [others, closeAll, Act.run]

end Tracker

/-! ## Calls -/

namespace Dispatcher

/-- All that the dispatcher has about the peers but for the one with a handle. -/
def others (h : Handle) (d : Dispatcher W) : List Peer × List Conversation :=
  (d.peers.others h, d.conversations.others h)

theorem keeps_others_onPeers {x : Act PeerStore α} (hx : Keeps (PeerStore.others h) x) :
    Keeps (others h) (onPeers x : Act (Dispatcher W) α) := fun d =>
  congrArg (·, d.conversations.others h) (hx d.peers)

theorem keeps_others_onConversations {x : Act Tracker α} (hx : Keeps (Tracker.others h) x) :
    Keeps (others h) (onConversations x : Act (Dispatcher W) α) := fun d =>
  congrArg (d.peers.others h, ·) (hx d.conversations)

theorem handled_others (h : Handle) : Handled (W := W) (others h) h where
  peers _ hf := keeps_others_onPeers (PeerStore.keeps_others_withPeer hf)
  sent _ := rfl
  failed _ := rfl
  transmit _ _ _ _ _ := rfl
  counted _ _ := rfl
  opened id reason := keeps_others_onConversations (Tracker.keeps_others_openTheirs id reason)
  closed id test := keeps_others_onConversations (Tracker.keeps_others_closeIf id test)
  queued := keeps_enqueue (fun _ _ => rfl) fun _ _ => rfl
  introduced _ _ _ := keeps_others_onPeers (PeerStore.keeps_others_updateIdentity _ _ _)
  awaited _ := keeps_others_onPeers (PeerStore.keeps_others_withPeer fun _ => rfl)
  acted _ _ := rfl

theorem others_joined (d : Dispatcher W) {p : Peer} (hp : p.handle = h) :
    (d.joined p).others h = d.others h :=
  congrArg (·, d.conversations.others h) (PeerStore.others_place hp d.peers.slots)

theorem keeps_others_startConversation (w : Wiring W) (kind : Kind) (reason : String)
    (payload : Bytes) : Keeps (others h) (startConversation w h kind reason payload) := by
  have hopen := keeps_others_onConversations (W := W) (Tracker.keeps_others_openOurs (h := h) reason)
  have hclose (id : UInt16) := (handled_others (W := W) h).closed id (·.ours)
  refine hopen.bind fun id => ((handled_others h).send w kind id payload).attempt.bind fun sent => ?_
  cases sent with
  | ok _ => exact Keeps.pure id
  | error e => exact (hclose id).attempt.bind fun _ => Keeps.fail e

theorem keeps_others_reply (w : Wiring W) {m : Message} (hm : m.peer = some h) (payload : Bytes) :
    Keeps (others h) (reply w m payload) := by
  unfold reply
  rw [hm]
  refine ((handled_others h).send w _ _ payload).attempt.bind fun sent => ?_
  split
  · exact ((handled_others h).closed _ _).attempt.bind fun _ => keeps_conclude sent
  · exact keeps_conclude sent

theorem keeps_others_removePeer : Keeps (others h) (removePeer h : Act (Dispatcher W) Unit) := by
  have hremove : Keeps (others h) (onPeers (PeerStore.remove h) : Act (Dispatcher W) Peer) :=
    keeps_others_onPeers (PeerStore.keeps_others_onSlot fun p q hq => by cases hq)
  have hclose := keeps_others_onConversations (W := W) (Tracker.keeps_others_closeAll (h := h))
  exact hremove.bind fun _ => hclose.bind fun _ => Keeps.pure ()

/-- Whatever a call for a peer does, it leaves alone what is known of the others. -/
theorem Call.others (w : Wiring W) (c : Call) {d : Dispatcher W} (hc : c.peer? d = some h) :
    ((c.act w).run d).2.others h = d.others h := by
  have hhandled := handled_others (W := W) h
  cases c with
  | receive f =>
    rw [Call.act, run_map]
    exact hhandled.receive (fun d _ hp => others_joined d hp) (Option.some.inj hc)
  | reply m payload => exact (Keeps.map (keeps_others_reply w hc payload) _) d
  | provision => cases hc
  | send peer kind v payload =>
    cases hc
    exact (Keeps.map (hhandled.send w kind v payload) _) d
  | sendMessage peer bytes =>
    cases hc
    exact (Keeps.map (hhandled.sendMessage w bytes) _) d
  | startConversation peer kind reason payload =>
    cases hc
    exact (Keeps.map (keeps_others_startConversation w kind reason payload) _) d
  | removePeer peer =>
    cases hc
    exact (Keeps.map keeps_others_removePeer _) d
  | handshake peer =>
    cases hc
    exact (Keeps.map (hhandled.handshake w) _) d
  | sendWhen peer =>
    cases hc
    exact (Keeps.map ((hhandled.send w _ _ _).bind fun _ => Keeps.pure ()) _) d

/-! ## What is sent -/

theorem Mailed.targets {w : Wiring V} {fit : Bytes → Prop} {n : Nat} {t : Dispatcher (Watched V)}
    (hm : Mailed w h fit n [] t) : ∀ a ∈ t.world.calls, t.peers.address? h = some a.target :=
  fun a ha => (hm.each a ha).2

/-- Whatever a call for a peer sends goes to this peer. -/
theorem Call.targets (w : Wiring V) (c : Call) {d : Dispatcher (Watched V)}
    (hd : d.world.calls = []) (hc : c.peer? d = some h) :
    ∀ a ∈ ((c.act w.watched).run d).2.world.calls,
      ((c.act w.watched).run d).2.peers.address? h = some a.target := by
  have hposts {α : Type} {x : Act (Dispatcher (Watched V)) α} {g : α → Answer}
      (hx : Posts w h (fun _ => True) 1 x) :
      ∀ a ∈ ((g <$> x).run d).2.world.calls, ((g <$> x).run d).2.peers.address? h = some a.target := by
    rw [run_map]
    exact (Mailed.of_sends (hx d) hd).targets
  cases c with
  | receive f =>
    cases hc
    rw [Call.act, run_map]
    exact (hd ▸ receive_mails w f d).targets
  | reply m payload => exact hposts (posts_reply hc trivial)
  | provision => cases hc
  | send peer kind v payload =>
    cases hc
    exact hposts (posts_send trivial)
  | sendMessage peer bytes =>
    cases hc
    exact hposts (posts_sendMessage trivial)
  | startConversation peer kind reason payload =>
    cases hc
    exact hposts (posts_startConversation (fun _ => trivial) reason)
  | removePeer peer =>
    -- the drivers are not asked anything
    have hworld : Keeps (fun d : Dispatcher (Watched V) => d.world.calls)
        (Dispatcher.removePeer peer) :=
      Keeps.bind (fun _ => rfl) fun _ => Keeps.bind (fun _ => rfl) fun _ => Keeps.pure ()
    have hnone := (hworld.map fun _ => Answer.done) d
    intro a ha
    rw [show ((Call.act w.watched (.removePeer peer)).run d).2.world.calls = [] from hnone.trans hd]
      at ha
    cases ha
  | handshake peer =>
    cases hc
    exact hposts (posts_handshake trivial)
  | sendWhen peer =>
    cases hc
    exact hposts ((posts_send trivial).bind_keeps fun _ => Keeps.pure ())

/-! ## Isolation -/

/-- What a call for the peer with a handle came to: the dispatcher itself does the same as with drivers
that are watched, what it has about other peers is as it was, and what was sent went to this peer. -/
structure Isolated (w : Wiring V) (c : Call) (h : Handle) (d : Dispatcher V)
    (o : Except Error Answer × Dispatcher (Watched V)) : Prop where
  seen : (c.act w).run d = (o.1, o.2.unwatched)
  peers : o.2.peers.others h = d.peers.others h
  conversations : o.2.conversations.others h = d.conversations.others h
  calls : ∀ a ∈ o.2.world.calls, o.2.peers.address? h = some a.target

/-- Watching makes no difference to whom a frame is attributed. -/
theorem Routed.unwatched {w : Wiring V} {f : Inbound} {s t : Dispatcher (Watched V)} {m : Message}
    (hr : Routed w.watched f s m h t) : Routed w f s.unwatched m h t.unwatched where
  read := hr.read
  sound := hr.sound
  sender := by rw [through_resolveSender w f.sender f.media m.kind s, hr.sender]

/-- A frame that is attributed to nobody, from a sender that is not known. -/
theorem receive_unattributed (w : Wiring V) {f : Inbound} {d : Dispatcher V}
    (hnew : d.peers.ofSender? f.sender = none)
    (hnobody : ∀ m h t, ¬ Routed w f d.countReceived m h t) :
    ((receive w.watched f).run d.watched).2.peers = d.peers ∧
      ((receive w.watched f).run d.watched).2.conversations = d.conversations ∧
      ((receive w.watched f).run d.watched).2.world.calls = [] := by
  let view (d : Dispatcher (Watched V)) := (d.peers, d.conversations, d.world.calls)
  have hlast : view ((receive w.watched f).run d.watched).2 = _ :=
    view_receive w.watched (fun _ _ => rfl) f d.watched
  suffices hroute : view ((route w.watched f).run d.watched.countReceived).2 =
      (d.peers, d.conversations, []) by
    simpa [view] using hlast.trans hroute
  have hway := way w.watched f d.watched.countReceived
  generalize (route w.watched f).run d.watched.countReceived = o at hway
  cases hway with
  | unreadable => rfl
  | unattributed => rfl
  | damaged _ _ _ hrefused =>
    have hcheck : view ((checkIntegrity f).run d.watched.countReceived).2 =
        view d.watched.countReceived :=
      -- there is no sender to charge
      view_checkIntegrity (fun _ _ => rfl) fun p hp => by cases hnew.symm.trans hp
    rwa [hrefused] at hcheck
  | taken hrouted => exact absurd hrouted.unwatched (hnobody _ _ _)

/-- Whatever is called for a peer, and whatever frame comes from it, every other peer and every
conversation with another stay as they are, and nothing is sent to another. A frame of nobody changes
nothing about peers and conversations. -/
theorem calls_isolated (w : Wiring V) (d : Dispatcher V) :
    (∀ c h, c.peer? d = some h → Isolated w c h d ((c.act w.watched).run d.watched)) ∧
    ∀ f, d.peers.ofSender? f.sender = none → (∀ m h t, ¬ Routed w f d.countReceived m h t) →
      ((receive w.watched f).run d.watched).2.peers = d.peers ∧
        ((receive w.watched f).run d.watched).2.conversations = d.conversations ∧
        ((receive w.watched f).run d.watched).2.world.calls = [] := by
  refine ⟨fun c h hc => ?_, fun f hnew hnobody => receive_unattributed w hnew hnobody⟩
  have hc' : c.peer? d.watched = some h := by
    rw [← hc]
    cases c <;> rfl
  have hothers := Call.others w.watched c hc'
  exact ⟨Call.through w c d.watched, congrArg Prod.fst hothers, congrArg Prod.snd hothers,
    Call.targets w c rfl hc'⟩

/-- One peer greets again while another has an open conversation: it is answered, and the other is left
alone. -/
theorem greeting_isolated :
    let w : Wiring Unit := { drivers := [.sink .busCan] }
    let provisioned := ((provision "first" ⟨2, 0, 0, 0, 0, 1⟩ (.singleton .busCan)).run
      ((provision "second" ⟨2, 0, 0, 0, 0, 2⟩ (.singleton .busCan)).run
        (alone ⟨2, 0, 0, 0, 0, 9⟩ 16 ())).2).2
    let d := ((receive w asking).run provisioned).2
    let c := Call.receive
      { sender := .address ⟨2, 0, 0, 0, 0, 1⟩
        media := .busCan
        bytes := Frame.build .handshake 0 (w.helloPayload hello) }
    let o := (c.act w.watched).run d.watched
    c.peer? d = some ⟨2⟩ ∧ Isolated w c ⟨2⟩ d o ∧ o.1 = .ok .done ∧ o.2.world.calls.length = 1 ∧
      (d.peers.others ⟨2⟩).length = 1 ∧
      d.conversations.others ⟨2⟩ = [⟨5, ⟨1⟩, "request", false⟩] := by
  intro w provisioned d c o
  have hpeer : c.peer? d = some ⟨2⟩ := by decide +kernel
  exact ⟨hpeer, (calls_isolated w d).1 c ⟨2⟩ hpeer, by decide +kernel, by decide +kernel,
    by decide +kernel, by decide +kernel⟩

end Dispatcher

end Multilink
