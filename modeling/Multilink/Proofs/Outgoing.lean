import Multilink.Proofs.Handling
import Multilink.Proofs.Promise
import Multilink.Proofs.Ranks
import Multilink.Proofs.Requests
/-!
# What a frame makes its receiver send

A message is sent in attempts, each of which hands the same bytes to a driver for the same address.
`Post` is such a message, and `Dispatcher.Sends` says how many were sent between two states, all of
them to one peer. A handler sends one at most, `Dispatcher.sends_take`, and learning a peer another
one, so that a frame comes to two at most: `Dispatcher.receive_mails`, which also says that they all
stand below the frame in rank.
-/

namespace Multilink

variable {V α β : Type}

/-- A message that was sent, with the attempts to send it. -/
structure Post (V : Type) where
  target : Address
  bytes : Bytes
  calls : List (Attempt V)

/-- Each attempt hands the bytes to a driver for the target. There are no more attempts than these,
and one succeeds at most. -/
structure Post.Proper (attempts : Nat) (x : Post V) : Prop where
  same : ∀ c ∈ x.calls, c.target = x.target ∧ c.bytes = x.bytes
  within : x.calls.length ≤ attempts
  once : x.calls.countP (·.ok) ≤ 1

namespace PeerStore

/-- The address of the peer with a handle. -/
def address? (h : Handle) (s : PeerStore) : Option Address :=
  (s.ofHandle? h).map (·.address)

theorem Seat.address? {s : PeerStore} {h : Handle} {before after : List (Option Peer)} {p : Peer}
    (hs : s.Seat h before after p) : s.address? h = some p.address := by
  rw [PeerStore.address?, ofHandle?_of_split hs.slots hs.first hs.handle]
  rfl

end PeerStore

namespace Dispatcher

open Act

variable {w : Wiring V} {peer : Handle} {fit : Bytes → Prop} {n k : Nat}
variable {s t u : Dispatcher (Watched V)}

/-- Since these calls the drivers have been asked to send so many messages at most, all of them fit
and for the address of this peer. -/
def Mailed (w : Wiring V) (peer : Handle) (fit : Bytes → Prop) (n : Nat) (calls : List (Attempt V))
    (t : Dispatcher (Watched V)) : Prop :=
  ∃ posts : List (Post V), posts.length ≤ n ∧ t.world.calls = calls ++ posts.flatMap (·.calls) ∧
    ∀ x ∈ posts, x.Proper w.attempts ∧ fit x.bytes ∧ t.peers.address? peer = some x.target

/-- Between these states so many messages at most were sent. The peer, if it is there, stays. -/
structure Sends (w : Wiring V) (peer : Handle) (fit : Bytes → Prop) (n : Nat)
    (s t : Dispatcher (Watched V)) : Prop where
  address : ∀ a, s.peers.address? peer = some a → t.peers.address? peer = some a
  mailed : Mailed w peer fit n s.world.calls t

/-- What decides about messages: who the peers are, and what the drivers were asked to do. -/
def posture (d : Dispatcher (Watched V)) : (List Identity × Bool) × List (Attempt V) :=
  (d.peers.roster, d.world.calls)

namespace Sends

theorem of_posture (h : t.posture = s.posture) : Sends w peer fit 0 s t where
  address _ ha := (PeerStore.ofHandle?_address_of_roster (congrArg Prod.fst h) peer).trans ha
  mailed := ⟨[], Nat.le_refl 0, (congrArg Prod.snd h).trans (List.append_nil _).symm, nofun⟩

theorem trans (hst : Sends w peer fit n s t) (htu : Sends w peer fit k t u) :
    Sends w peer fit (n + k) s u := by
  obtain ⟨xs, hxs, ht, hfit⟩ := hst.mailed
  obtain ⟨ys, hys, hu, hfit'⟩ := htu.mailed
  refine ⟨fun a ha => htu.address a (hst.address a ha), xs ++ ys, ?_, ?_, fun x hx => ?_⟩
  · rw [List.length_append]
    exact Nat.add_le_add hxs hys
  · rw [hu, ht, List.flatMap_append, List.append_assoc]
  · rcases List.mem_append.1 hx with hx | hx
    · obtain ⟨hproper, hx, htarget⟩ := hfit x hx
      exact ⟨hproper, hx, htu.address _ htarget⟩
    · exact hfit' x hx

theorem mono (h : Sends w peer fit n s t) (hn : n ≤ k) : Sends w peer fit k s t := by
  obtain ⟨xs, hxs, ht, hfit⟩ := h.mailed
  exact ⟨h.address, xs, Nat.le_trans hxs hn, ht, hfit⟩

end Sends

/-- A step that sends so many messages at most, whatever it starts from. -/
def Posts (w : Wiring V) (peer : Handle) (fit : Bytes → Prop) (n : Nat)
    (x : Act (Dispatcher (Watched V)) α) : Prop :=
  ∀ s, Sends w peer fit n s (x.run s).2

namespace Posts

/-- A step that sends nothing. -/
theorem of_keeps {x : Act (Dispatcher (Watched V)) α} (h : Keeps posture x) (n : Nat) :
    Posts w peer fit n x := fun s => (Sends.of_posture (h s)).mono (Nat.zero_le n)

theorem attempt {x : Act (Dispatcher (Watched V)) α} (h : Posts w peer fit n x) :
    Posts w peer fit n (Act.attempt x) := h

theorem bind {x : Act (Dispatcher (Watched V)) α} {f : α → Act (Dispatcher (Watched V)) β}
    (hx : Posts w peer fit n x) (hf : ∀ a, Posts w peer fit k (f a)) :
    Posts w peer fit (n + k) (x >>= f) := by
  intro s
  have h := hx s
  rw [run_bind]
  split
  · next a t ht =>
    rw [ht] at h
    exact h.trans (hf a t)
  · next e t ht =>
    rw [ht] at h
    exact h.mono (Nat.le_add_right n k)

/-- First a step that sends nothing. -/
theorem keeps_bind {x : Act (Dispatcher (Watched V)) α} {f : α → Act (Dispatcher (Watched V)) β}
    (hx : Keeps posture x) (hf : ∀ a, Posts w peer fit n (f a)) : Posts w peer fit n (x >>= f) := by
  have h := (of_keeps hx 0).bind hf
  rwa [Nat.zero_add] at h

/-- Then only steps that send nothing. -/
theorem bind_keeps {x : Act (Dispatcher (Watched V)) α} {f : α → Act (Dispatcher (Watched V)) β}
    (hx : Posts w peer fit n x) (hf : ∀ a, Keeps posture (f a)) : Posts w peer fit n (x >>= f) :=
  hx.bind fun a => of_keeps (hf a) 0

end Posts

/-! ## Sending -/

theorem run_sendMessage_watched (w : Wiring V) (peer : Handle) (bytes : Bytes)
    (s : Dispatcher (Watched V)) : (sendMessage w.watched peer bytes).run s =
      (trySend w.watched peer bytes (w.usable bytes.length s.world.links) w.attempts).run s := by
  unfold sendMessage
  rw [run_bind_ok (run_get _), Wiring.watched_usable]
  rfl

/-- To send to a peer that is there is to make attempts in a row. -/
theorem run_sendMessage_seat {before after : List (Option Peer)} {p : Peer} (w : Wiring V)
    (bytes : Bytes) (hs : s.peers.Seat peer before after p) :
    ∃ cs r q v, (sendMessage w.watched peer bytes).run s = (r, s.tried before after q v cs) ∧
      Errand.Tries ⟨w, peer, bytes, s.orchestrator.clock, w.usable bytes.length s.world.links⟩
        w.attempts p s.world.links cs r q v := by
  obtain ⟨cs, r, q, v, htried, htries⟩ := run_trySend_watched (d := s)
    ⟨w, peer, bytes, s.orchestrator.clock, w.usable bytes.length s.world.links⟩ w.attempts hs rfl
  exact ⟨cs, r, q, v, (run_sendMessage_watched w peer bytes s).trans htried, htries⟩

/-- To send is to do nothing, or to make attempts in a row for a peer that is there. -/
theorem run_sendMessage_cases (w : Wiring V) (peer : Handle) (bytes : Bytes)
    (s : Dispatcher (Watched V)) :
    (∃ e, (sendMessage w.watched peer bytes).run s = (.error e, s)) ∨
    (∃ before p after cs r q v, s.peers.Seat peer before after p ∧
      (sendMessage w.watched peer bytes).run s = (r, s.tried before after q v cs) ∧
      Errand.Tries ⟨w, peer, bytes, s.orchestrator.clock, w.usable bytes.length s.world.links⟩
        w.attempts p s.world.links cs r q v) := by
  have hrefused {e : Error} (h : ∀ f : Peer → (Option Media × Address) × Peer,
      (PeerStore.withPeer peer f).run s.peers = (.error e, s.peers)) :
      ∃ e, (sendMessage w.watched peer bytes).run s = (.error e, s) := by
    rw [run_sendMessage_watched]
    cases w.attempts with
    | zero => exact ⟨_, rfl⟩
    | succ n => exact ⟨e, run_trySend_refused w.watched bytes _ n h⟩
  cases free : s.peers.held with
  | true => exact .inl (hrefused fun f => PeerStore.run_withPeer_held free f)
  | false =>
    cases hpeer : s.peers.ofHandle? peer with
    | none => exact .inl (hrefused fun f => PeerStore.run_withPeer_absent free hpeer f)
    | some p =>
      obtain ⟨before, after, hs⟩ := PeerStore.exists_seat free hpeer
      obtain ⟨cs, r, q, v, hrun, htries⟩ := run_sendMessage_seat w bytes hs
      exact .inr ⟨before, p, after, cs, r, q, v, hs, hrun, htries⟩

theorem posts_sendMessage {bytes : Bytes} (hfit : fit bytes) :
    Posts w peer fit 1 (sendMessage w.watched peer bytes) := by
  intro s
  have hroster : ((sendMessage w.watched peer bytes).run s).2.peers.roster = s.peers.roster :=
    ((spared_still peer).comp fun v => v.2.2.2).sendMessage w.watched bytes s
  have haddress := PeerStore.ofHandle?_address_of_roster hroster peer
  rcases run_sendMessage_cases w peer bytes s with
    ⟨e, hrun⟩ | ⟨before, p, after, cs, r, q, v, hs, hrun, htries⟩
  · rw [hrun]
    exact (Sends.of_posture rfl).mono (Nat.zero_le 1)
  · rw [hrun] at haddress ⊢
    have htarget : (s.tried before after q v cs).peers.address? peer = some p.address :=
      haddress.trans hs.address?
    refine ⟨fun a ha => haddress.trans ha, [⟨p.address, bytes, cs⟩], Nat.le_refl 1, ?_, ?_⟩
    · simp [tried]
    · intro x hx
      cases List.mem_singleton.1 hx
      have hsame : ∀ c ∈ cs, c.target = p.address ∧ c.bytes = bytes := fun c hc =>
        ⟨(htries.routed c hc).target, (htries.routed c hc).content⟩
      exact ⟨⟨hsame, htries.length_le, htries.once⟩, hfit, htarget⟩

theorem posts_send {kind : Kind} {v : UInt16} {payload : Bytes}
    (hfit : fit (Frame.build kind v payload)) :
    Posts w peer fit 1 (send w.watched peer kind v payload) :=
  posts_sendMessage hfit

theorem posts_handshake (hfit : fit (Frame.build .handshake 0 (w.watched.helloPayload hello))) :
    Posts w peer fit 1 (handshake w.watched peer) :=
  (posts_send hfit).bind_keeps fun _ => Keeps.pure ()

theorem posts_startConversation {kind : Kind} {payload : Bytes}
    (hfit : ∀ id, fit (Frame.build kind id payload)) (reason : String) :
    Posts w peer fit 1 (startConversation w.watched peer kind reason payload) := by
  refine .keeps_bind (fun _ => rfl) fun id => (posts_send (hfit id)).attempt.bind_keeps fun sent => ?_
  cases sent with
  | ok _ => exact Keeps.pure id
  | error e => exact Keeps.bind (fun _ => rfl) fun _ => Keeps.fail e

theorem posts_reply {m : Message} {payload : Bytes} (hm : m.peer = some peer)
    (hfit : fit (Frame.build .reply m.conversation payload)) :
    Posts w peer fit 1 (reply w.watched m payload) := by
  unfold reply
  rw [hm]
  refine (posts_send hfit).attempt.bind_keeps fun sent => ?_
  split
  · exact Keeps.bind (fun _ => rfl) fun _ => keeps_conclude sent
  · exact keeps_conclude sent

/-! ## Handling -/

theorem filed_posture (peer : Handle) : Filed (W := Watched V) posture peer where
  counted _ _ := rfl
  opened _ _ _ := rfl
  closed _ _ _ := rfl
  queued := keeps_enqueue (fun _ _ => rfl) fun _ _ => rfl

theorem keeps_posture_onPeers {x : Act PeerStore α} (h : Keeps PeerStore.roster x) :
    Keeps posture (onPeers x : Act (Dispatcher (Watched V)) α) := fun d =>
  congrArg (·, d.world.calls) (h d.peers)

theorem posts_takeHandshake (peer : Handle) {m : Message} (hk : m.kind = .handshake) :
    Posts w peer (Frame.Below m.rank) 1 (takeHandshake w.watched peer m) := by
  unfold takeHandshake
  simp only []
  split
  · exact .of_keeps (Keeps.fail _) 1
  · have hkeeps := PeerStore.keeps_roster_updateIdentity peer
    refine .keeps_bind (keeps_posture_onPeers (hkeeps _ _ _)) fun _ => ?_
    split
    · next hhello =>
      have hrank : m.rank = 1 := by
        unfold Message.rank
        rw [hk]
        exact if_pos hhello
      rw [hrank]
      exact (posts_send (below_helloAnswer w.watched _)).bind_keeps fun _ => Keeps.pure ()
    · exact .of_keeps (Keeps.pure ()) 1

theorem posts_takePriority (peer : Handle) {m : Message}
    (hfit : fit (Frame.build .reply m.conversation (receipt m))) :
    Posts w peer fit 1 (takePriority w.watched peer m) := by
  refine .keeps_bind (fun _ => rfl) fun _ => (posts_send hfit).attempt.bind_keeps fun sent => ?_
  -- the handler acts on the world of the drivers, not on their record
  cases hhandler : w.onPriority with
  | none =>
    rw [show w.watched.onPriority = none by rw [Wiring.watched, hhandler]; rfl]
    exact (Keeps.pure ()).bind fun _ => keeps_conclude sent
  | some handle =>
    rw [show w.watched.onPriority = some fun m a => { a with links := handle m a.links } by
      rw [Wiring.watched, hhandler]; rfl]
    exact Keeps.bind (fun _ => rfl) fun _ => keeps_conclude sent

theorem posts_takeOrchestration (peer : Handle) {m : Message} (hk : m.kind = .orchestration) :
    Posts w peer (Frame.Below m.rank) 1 (takeOrchestration w.watched peer m) := by
  unfold takeOrchestration
  cases htext : m.fieldText? 0 with
  | none => exact .of_keeps (Keeps.fail _) 1
  | some text =>
    simp only []
    split
    · next hquestion =>
      have hrank : m.rank = 3 := by
        unfold Message.rank
        rw [hk]
        exact if_pos (hquestion ▸ htext)
      rw [hrank]
      exact .keeps_bind Keeps.get fun d =>
        (posts_send (below_announcement _ _ _)).bind_keeps fun _ => Keeps.pure ()
    · split
      · exact .of_keeps (Keeps.fail _) 1
      · refine .of_keeps (Keeps.bind (fun _ => rfl) fun now => ?_) 1
        exact keeps_posture_onPeers (PeerStore.keeps_roster_setAvailability peer _)

/-- A handler sends one message at most, and what it sends stands below the message handled. -/
theorem posts_take (peer : Handle) (m : Message) :
    Posts w peer (Frame.Below m.rank) 1 (take w.watched peer m) := by
  unfold take
  cases hk : m.kind with
  | handshake => exact posts_takeHandshake peer hk
  | request => exact .of_keeps ((filed_posture peer).takeRequest m) 1
  | reply => exact .of_keeps ((filed_posture peer).takeReply m) 1
  | data => exact .of_keeps ((filed_posture peer).takeData m) 1
  | priority =>
    have hrank : m.rank = 3 := by
      unfold Message.rank
      rw [hk]
    rw [hrank]
    exact posts_takePriority peer (below_receipt m)
  | orchestration => exact posts_takeOrchestration peer hk
  | qos => exact .of_keeps (Keeps.pure ()) 1

/-! ## Receiving -/

/-- Each call hands bytes that fit to a driver for the address of the peer. -/
theorem Mailed.each (h : Mailed w peer fit n [] t) :
    ∀ c ∈ t.world.calls, fit c.bytes ∧ t.peers.address? peer = some c.target := by
  obtain ⟨posts, -, hcalls, hposts⟩ := h
  intro c hc
  rw [hcalls] at hc
  obtain ⟨x, hx, hc⟩ := List.mem_flatMap.1 hc
  obtain ⟨hproper, hfit, haddress⟩ := hposts x hx
  obtain ⟨htarget, hbytes⟩ := hproper.same c hc
  exact ⟨hbytes ▸ hfit, haddress.trans (congrArg some htarget.symm)⟩

theorem Mailed.of_sends {calls : List (Attempt V)} (h : Sends w peer fit n s t)
    (hcalls : s.world.calls = calls) : Mailed w peer fit n calls t :=
  hcalls ▸ h.mailed

/-- What is sent to a sender before its message is handled: a greeting, if it is new. -/
theorem Met.sends {sender : Sender} {kind : Kind} {d t : Dispatcher (Watched V)} {h : Handle}
    (hmet : Met w.watched sender kind d h t)
    (hgreeting : kind ≠ .handshake → fit (Frame.build .handshake 0 (w.watched.helloPayload hello))) :
    ∃ s, s.world.calls = d.world.calls ∧
      Sends w h fit (if (d.peers.ofSender? sender).isSome then 0 else 1) s t := by
  cases hmet with
  | known _ found =>
    rw [found]
    exact ⟨d, rfl, .of_posture rfl⟩
  | @learned p _ new _ _ =>
    rw [new]
    refine ⟨d.joined p, rfl, ?_⟩
    show Sends w p.handle fit 1 (d.joined p) (welcomed w.watched kind p d)
    unfold welcomed
    split
    · exact (Sends.of_posture rfl).mono (Nat.zero_le 1)
    · next hk => exact posts_handshake (hgreeting hk) _

/-- The receiver of a frame sends a greeting and what the handler of the message sends, or just this if
it knows the sender. -/
theorem receive_mails_routed (w : Wiring V) (f : Inbound) (d : Dispatcher (Watched V))
    (hgreeting : ∀ m, Frame.parse? f.bytes = .ok m → m.kind ≠ .handshake →
      fit (Frame.build .handshake 0 (w.watched.helloPayload hello)))
    (htake : ∀ m peer t, Routed w.watched f d.countReceived m peer t →
      Met w.watched f.sender m.kind d.countReceived peer t →
      Sends w peer fit 1 (t.heard f.media peer)
        ((take w.watched peer { m with media := some f.media, peer := some peer }).run
          (t.heard f.media peer)).2) :
    Mailed w (d.peers.attribution f.sender) fit
      (if (d.peers.ofSender? f.sender).isSome then 1 else 2) d.world.calls
      ((receive w.watched f).run d).2 := by
  have hlast : posture ((receive w.watched f).run d).2 =
      posture ((route w.watched f).run d.countReceived).2 :=
    view_receive w.watched (fun _ _ => rfl) f d
  have hway := way w.watched f d.countReceived
  generalize (route w.watched f).run d.countReceived = o at hlast hway
  have hnothing (h : o.2.world.calls = d.world.calls) :
      Mailed w (d.peers.attribution f.sender) fit
        (if (d.peers.ofSender? f.sender).isSome then 1 else 2) d.world.calls
        ((receive w.watched f).run d).2 :=
    .of_sends ((Sends.of_posture hlast).mono (Nat.zero_le _)) h
  cases hway with
  | unreadable => exact hnothing rfl
  | damaged _ _ _ hrefused =>
    let calls (s : Dispatcher (Watched V)) := s.world.calls
    have hcheck : calls ((checkIntegrity f).run d.countReceived).2 = calls d.countReceived :=
      view_checkIntegrity (fun _ _ => rfl) fun _ _ _ => rfl
    rw [hrefused] at hcheck
    exact hnothing hcheck
  | unattributed => exact hnothing rfl
  | @taken m peer t hrouted hmet =>
    have hpeer : peer = d.peers.attribution f.sender := hmet.attribution
    obtain ⟨s, hcalls, hgreeted⟩ := hmet.sends (hgreeting m hrouted.read)
    have hheard : (t.heard f.media peer).posture = t.posture :=
      keeps_posture_onPeers (PeerStore.keeps_roster_recordReceive peer f.media true) t
    have htaken := htake m peer t hrouted hmet
    have hsends := ((hgreeted.trans (.of_posture hheard)).trans htaken).trans (.of_posture hlast)
    rw [← hpeer]
    refine .of_sends (hsends.mono ?_) hcalls
    show (if (d.peers.ofSender? f.sender).isSome then 0 else 1) + 0 + 1 + 0 ≤ _
    split <;> exact Nat.le_refl _

/-- The same for a handler that sends the same whatever the state is. -/
theorem receive_mails_of (w : Wiring V) (f : Inbound) (d : Dispatcher (Watched V))
    (hgreeting : ∀ m, Frame.parse? f.bytes = .ok m → m.kind ≠ .handshake →
      fit (Frame.build .handshake 0 (w.watched.helloPayload hello)))
    (htake : ∀ m peer, Frame.parse? f.bytes = .ok m → Posts w peer fit 1
      (take w.watched peer { m with media := some f.media, peer := some peer })) :
    Mailed w (d.peers.attribution f.sender) fit
      (if (d.peers.ofSender? f.sender).isSome then 1 else 2) d.world.calls
      ((receive w.watched f).run d).2 :=
  receive_mails_routed w f d hgreeting fun m peer t hrouted _ =>
    htake m peer hrouted.read (t.heard f.media peer)

/-- The receiver of a frame sends a greeting and an answer at most, or just the answer if it knows the
sender. Both go to the sender and stand below the frame. -/
theorem receive_mails (w : Wiring V) (f : Inbound) (d : Dispatcher (Watched V)) :
    Mailed w (d.peers.attribution f.sender) (Frame.Below (Frame.rank f.bytes))
      (if (d.peers.ofSender? f.sender).isSome then 1 else 2) d.world.calls
      ((receive w.watched f).run d).2 := by
  refine receive_mails_of w f d (fun m hm hk => ?_) fun m peer hm => ?_
  · rw [Frame.rank_of_read hm]
    exact below_greeting w.watched (Message.two_le_rank hk)
  · rw [Frame.rank_of_read hm]
    exact posts_take peer { m with media := some f.media, peer := some peer }

end Dispatcher

end Multilink
