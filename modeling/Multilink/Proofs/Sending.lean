import Multilink.Dispatcher.Send
import Multilink.Proofs.Conversations
import Multilink.Proofs.PeerStore
/-!
# What sending touches

Sending counts, scores and acts on the world. A view of a dispatcher that the smallest steps of this
leave alone, `Dispatcher.Spared`, is left alone by every kind of sending, however often it has to try
and whatever comes of it. The widest of these views is `Dispatcher.still`. Starting a conversation is
to send with the conversation open, `Dispatcher.started`.
-/

namespace Multilink.Dispatcher

open Act

variable {W α γ : Type} (w : Wiring W)

theorem run_onPeers {x : Act PeerStore α} {d : Dispatcher W} {r : Except Error α} {t : PeerStore}
    (h : x.run d.peers = (r, t)) : (onPeers x).run d = (r, { d with peers := t }) := by
  simp [onPeers, h]

theorem run_onConversations {x : Act Tracker α} {d : Dispatcher W} {r : Except Error α} {t : Tracker}
    (h : x.run d.conversations = (r, t)) :
    (onConversations x).run d = (r, { d with conversations := t }) := by
  simp [onConversations, h]

theorem failsWith_onPeers {P : Error → Prop} {x : Act PeerStore α} (h : FailsWith P x) :
    FailsWith P (onPeers x : Act (Dispatcher W) α) :=
  FailsWith.onPart h

/-! ## Any view -/

/-- A view that is left alone by whatever sending to a peer is made of: changes to this peer that
leave alone who it is, two counts, and what the drivers do. -/
structure Spared (view : Dispatcher W → γ) (peer : Handle) : Prop where
  peers : ∀ {α : Type} (f : Peer → α × Peer), (∀ p, (f p).2.identity = p.identity) →
    Keeps view (onPeers (PeerStore.withPeer peer f))
  sent : Keeps view (count fun c => { c with sent := c.sent + 1 })
  failed : Keeps view (count fun c => { c with sendFailures := c.sendFailures + 1 })
  transmit : ∀ driver target m bytes, Keeps view (transmit driver target m bytes)

namespace Spared

variable {view : Dispatcher W → γ} {peer : Handle}

theorem noteSent (h : Spared view peer) (driver : Driver W) (target : Address) (m : Media) :
    Keeps view (noteSent driver peer target m) := by
  unfold Dispatcher.noteSent
  refine (h.peers _ fun p => PeerStore.identity_updateStats m _ p).bind fun _ => ?_
  refine Keeps.get.bind fun d => ?_
  split
  · exact (h.peers _ fun p => PeerStore.identity_updateStats m _ p).bind fun _ => h.sent
  · exact (Keeps.pure ()).bind fun _ => h.sent

theorem noteFailed (h : Spared view peer) (m : Media) : Keeps view (noteFailed peer m) :=
  h.failed.bind fun _ => h.peers _ fun p => PeerStore.identity_updateStats m _ p

theorem comp {δ : Type} (h : Spared view peer) (g : γ → δ) : Spared (fun d => g (view d)) peer where
  peers f hf := (h.peers f hf).comp g
  sent := h.sent.comp g
  failed := h.failed.comp g
  transmit driver target m bytes := (h.transmit driver target m bytes).comp g

/-- However many attempts are left. -/
theorem trySend (h : Spared view peer) (bytes : Bytes) (usable : MediaSet) (n : Nat) :
    Keeps view (trySend w peer bytes usable n) := by
  induction n with
  | zero => exact Keeps.fail _
  | succ n ih =>
    unfold Dispatcher.trySend
    refine Keeps.bind (fun _ => rfl) fun now => ?_
    have hselect : Keeps view
        (onPeers (PeerStore.select w.profiles now peer bytes.length usable)) :=
      h.peers _ fun p => PeerStore.identity_selectFrom _ now _ _ none p
    refine hselect.bind ?_
    rintro ⟨media, target⟩
    cases media with
    | none => exact Keeps.fail _
    | some m =>
      refine Keeps.get.bind fun d => ?_
      split
      · exact Keeps.fail _
      · next driver _ =>
        refine (h.transmit driver target m bytes).bind fun r => ?_
        cases r with
        | ok _ => exact (h.noteSent driver target m).bind fun _ => Keeps.pure m
        | error _ => exact (h.noteFailed m).bind fun _ => ih

theorem sendMessage (h : Spared view peer) (bytes : Bytes) : Keeps view (sendMessage w peer bytes) :=
  Keeps.get.bind fun _ => h.trySend w bytes _ w.attempts

theorem send (h : Spared view peer) (kind : Kind) (v : UInt16) (payload : Bytes) :
    Keeps view (send w peer kind v payload) :=
  h.sendMessage w _

theorem handshake (h : Spared view peer) : Keeps view (handshake w peer) :=
  (h.send w _ _ _).bind fun _ => Keeps.pure ()

end Spared

/-! ## Errors -/

theorem failsWith_now (P : Error → Prop) : FailsWith P (now : Act (Dispatcher W) Micros) := by
  intro d e he
  cases he

theorem failsWith_transmit (P : Error → Prop) (driver : Driver W) (target : Address) (m : Media)
    (bytes : Bytes) : FailsWith P (transmit driver target m bytes) := by
  intro d e he
  cases he

theorem failsWith_trySend (peer : Handle) (bytes : Bytes) (usable : MediaSet) (n : Nat) :
    FailsWith (·.isReaching = true) (trySend w peer bytes usable n) := by
  have hnote (f : Peer → Peer) :
      FailsWith (·.isReaching = true) (onPeers (PeerStore.update peer f) : Act (Dispatcher W) Unit) :=
    failsWith_onPeers (PeerStore.failsWith_update peer f)
  induction n with
  | zero => exact .fail rfl
  | succ n ih =>
    unfold trySend
    refine (failsWith_now _).bind fun now => ?_
    refine .bind (failsWith_onPeers (PeerStore.failsWith_onSlot peer _)) ?_
    rintro ⟨media, target⟩
    cases media with
    | none => exact .fail rfl
    | some m =>
      refine FailsWith.get.bind fun d => ?_
      split
      · exact .fail rfl
      · next driver _ =>
        refine (failsWith_transmit _ driver target m bytes).bind fun r => ?_
        cases r with
        | ok _ =>
          refine .bind ((hnote _).bind fun _ => FailsWith.get.bind fun d => ?_) fun _ => .pure m
          split
          · exact (hnote _).bind fun _ => .modify _
          · exact (FailsWith.pure ()).bind fun _ => .modify _
        | error _ => exact .bind ((FailsWith.modify _).bind fun _ => hnote _) fun _ => ih

theorem failsWith_send (peer : Handle) (kind : Kind) (v : UInt16) (payload : Bytes) :
    FailsWith (·.isReaching = true) (send w peer kind v payload) :=
  FailsWith.get.bind fun _ => failsWith_trySend w peer _ _ w.attempts

/-! ## Who is there and what is open -/

/-- What sending leaves alone: the conversations, the queue, the awake windows, and who the peers
are. -/
def still (d : Dispatcher W) :
    Tracker × WorkQueue Message × Orchestrator × List Identity × Bool :=
  (d.conversations, d.queue, d.orchestrator, d.peers.roster)

theorem keeps_still_onPeers {x : Act PeerStore α} (h : Keeps PeerStore.roster x) :
    Keeps still (onPeers x : Act (Dispatcher W) α) := fun d => by
  have hx := h d.peers
  simp only [onPeers, run_onPart, still, hx]

theorem spared_still (peer : Handle) : Spared (W := W) still peer where
  peers _ hf := keeps_still_onPeers (PeerStore.keeps_roster_withPeer hf)
  sent _ := rfl
  failed _ := rfl
  transmit _ _ _ _ _ := rfl

/-! ## Starting a conversation -/

/-- The dispatcher with a conversation of its own under this number. -/
def begun (peer : Handle) (reason : String) (id next : UInt16) (d : Dispatcher W) : Dispatcher W :=
  { d with
    conversations :=
      { opened := d.conversations.opened ++ [⟨id, peer, reason, true⟩], nextId := next } }

/-- What starting a conversation comes to. If its first message could not be sent it is closed again,
so that none is open that was not before. -/
inductive Started (peer : Handle) (kind : Kind) (reason : String) (payload : Bytes)
    (d : Dispatcher W) : Except Error UInt16 × Dispatcher W → Prop
  | full {next : UInt16} : Started peer kind reason payload d
      (.error (.conversation peer 0),
        { d with conversations := { d.conversations with nextId := next } })
  | sent {id next : UInt16} {m : Media} {t : Dispatcher W}
      (free : d.conversations.find? peer id = none)
      (send : (send w peer kind id payload).run (d.begun peer reason id next) = (.ok m, t)) :
      Started peer kind reason payload d (.ok id, t)
  | unsent {id next : UInt16} {e : Error} {t : Dispatcher W}
      (free : d.conversations.find? peer id = none)
      (send : (send w peer kind id payload).run (d.begun peer reason id next) = (.error e, t)) :
      Started peer kind reason payload d
        (.error e, { t with conversations := { d.conversations with nextId := next } })

theorem started (peer : Handle) (kind : Kind) (reason : String) (payload : Bytes)
    (d : Dispatcher W) :
    Started w peer kind reason payload d ((startConversation w peer kind reason payload).run d) := by
  unfold startConversation
  rcases Tracker.run_openOurs peer reason d.conversations with
    ⟨next, hopen⟩ | ⟨id, next, hfree, hopen⟩
  · have hfull : (onConversations (Tracker.open peer reason .ours)).run d = (.error _, _) :=
      run_onConversations hopen
    rw [run_bind_error hfull]
    exact .full
  · have hbegun : (onConversations (Tracker.open peer reason .ours)).run d =
        (.ok id, d.begun peer reason id next) := run_onConversations hopen
    rw [run_bind_ok hbegun]
    have hstill := (spared_still peer).send w kind id payload (d.begun peer reason id next)
    rcases hsend : (send w peer kind id payload).run (d.begun peer reason id next) with ⟨e | m, t⟩
    · rw [hsend] at hstill
      have hconv : t.conversations = (d.begun peer reason id next).conversations :=
        congrArg Prod.fst hstill
      have hclosed : (Tracker.closeOurs peer id).run t.conversations =
          (.ok ⟨id, peer, reason, true⟩, { d.conversations with nextId := next }) := by
        rw [hconv]
        exact Tracker.run_closeIf_fresh (c := ⟨id, peer, reason, true⟩) hfree rfl rfl
      rw [run_bind_attempt hsend]
      simp only []
      rw [run_bind_attempt (run_onConversations hclosed)]
      exact .unsent hfree hsend
    · rw [run_bind_attempt hsend]
      exact .sent hfree hsend

end Multilink.Dispatcher
