import Multilink.Proofs.Receiving
/-!
# What handlers touch

The handler of a kind changes the dispatcher by a few small steps, all of them about the peer that
sent the message. A view that these steps leave alone is left alone by every handler, and so by every
frame of this peer: `Dispatcher.Filed` names the steps of the kinds that are for the application, and
`Dispatcher.Handled` those of all kinds.
-/

namespace Multilink.Dispatcher

open Act

variable {W γ : Type} (w : Wiring W)

/-- A view that is left alone by whatever taking in requests, replies and data of a peer is made of:
counts, conversations with this peer, and the queue. -/
structure Filed (view : Dispatcher W → γ) (peer : Handle) : Prop where
  counted : ∀ f, Keeps view (count f)
  opened : ∀ id reason, Keeps view (onConversations (Tracker.openTheirs peer id reason))
  closed : ∀ id test, Keeps view (onConversations (Tracker.closeIf peer id test))
  queued : ∀ m, Keeps view (enqueue m)

/-- A view that is left alone by whatever handling the messages of a peer is made of. -/
structure Handled (view : Dispatcher W → γ) (peer : Handle) : Prop
    extends Spared view peer, Filed view peer where
  introduced : ∀ name media version,
    Keeps view (onPeers (PeerStore.updateIdentity peer name media version))
  awaited : ∀ a, Keeps view (onPeers (PeerStore.setAvailability peer a))
  acted : ∀ f : W → W, Keeps view (Act.modify fun d => { d with world := f d.world })

variable {w} {view : Dispatcher W → γ} {peer : Handle}

theorem keeps_conclude {α : Type} (r : Except Error α) :
    Keeps view (conclude r : Act (Dispatcher W) Unit) := fun _ => rfl

namespace Filed

theorem applyFilter (h : Filed view peer) (m : Message) : Keeps view (applyFilter w m) := by
  unfold Dispatcher.applyFilter
  split
  · exact (h.counted _).bind fun _ => Keeps.fail _
  · exact Keeps.pure ()

theorem takeRequest (h : Filed view peer) (m : Message) : Keeps view (takeRequest w peer m) := by
  refine (h.applyFilter m).bind fun _ => (h.opened _ _).attempt.bind fun opened =>
    (h.queued m).attempt.bind fun queued => ?_
  split
  · exact (h.closed _ _).attempt.bind fun _ => keeps_conclude _
  · exact keeps_conclude _

theorem takeReply (h : Filed view peer) (m : Message) : Keeps view (takeReply w peer m) :=
  (h.applyFilter m).bind fun _ => (h.closed _ _).attempt.bind fun _ => h.queued m

theorem takeData (h : Filed view peer) (m : Message) : Keeps view (takeData w m) :=
  (h.applyFilter m).bind fun _ => h.queued m

end Filed

namespace Handled

theorem takeHandshake (h : Handled view peer) (m : Message) : Keeps view (takeHandshake w peer m) := by
  unfold Dispatcher.takeHandshake
  simp only []
  split
  · exact Keeps.fail _
  · refine (h.introduced _ _ _).bind fun _ => ?_
    split
    · exact (h.send w _ _ _).bind fun _ => Keeps.pure ()
    · exact Keeps.pure ()

theorem takePriority (h : Handled view peer) (m : Message) : Keeps view (takePriority w peer m) := by
  refine (h.counted _).bind fun _ => (h.send w _ _ _).attempt.bind fun sent => ?_
  split
  · exact (h.acted _).bind fun _ => keeps_conclude sent
  · exact (Keeps.pure ()).bind fun _ => keeps_conclude sent

theorem takeOrchestration (h : Handled view peer) (m : Message) :
    Keeps view (takeOrchestration w peer m) := by
  unfold Dispatcher.takeOrchestration
  split
  · exact Keeps.fail _
  · split
    · exact Keeps.get.bind fun d => (h.send w _ _ _).bind fun _ => Keeps.pure ()
    · split
      · exact Keeps.fail _
      · exact Keeps.bind (fun _ => rfl) fun now => h.awaited _

theorem take (h : Handled view peer) (m : Message) : Keeps view (take w peer m) := by
  unfold Dispatcher.take
  cases m.kind with
  | handshake => exact h.takeHandshake m
  | request => exact h.takeRequest m
  | reply => exact h.takeReply m
  | data => exact h.takeData m
  | priority => exact h.takePriority m
  | orchestration => exact h.takeOrchestration m
  | qos => exact Keeps.pure ()

theorem heard (h : Handled view peer) (m : Media) (d : Dispatcher W) :
    view (d.heard m peer) = view d :=
  h.peers _ (fun p => PeerStore.identity_updateStats m _ p) d

/-- A damaged frame is noted against its sender. -/
theorem checkIntegrity (h : Handled view peer) {f : Inbound} {d : Dispatcher W}
    (hpeer : d.peers.attribution f.sender = peer) :
    view ((checkIntegrity f).run d).2 = view d := by
  refine view_checkIntegrity h.counted fun p hs => ?_
  have hp : p.handle = peer := by rw [← hpeer, PeerStore.attribution, hs]
  exact hp ▸ h.peers _ fun p => PeerStore.identity_updateStats f.media _ p

/-- Whatever becomes of a frame. -/
theorem receive (h : Handled view peer) (hjoined : ∀ d p, p.handle = peer → view (d.joined p) = view d)
    {f : Inbound} {d : Dispatcher W} (hpeer : d.peers.attribution f.sender = peer) :
    view ((receive w f).run d).2 = view d := by
  have hcount : view d.countReceived = view d :=
    h.counted (fun c => { c with received := c.received + 1 }) d
  rw [view_receive w h.counted, ← hcount]
  have hway := way w f d.countReceived
  generalize (route w f).run d.countReceived = o at hway
  cases hway with
  | unreadable => rfl
  | damaged _ _ _ hrefused =>
    have hcheck := h.checkIntegrity (f := f) (d := d.countReceived) hpeer
    rwa [hrefused] at hcheck
  | unattributed => rfl
  | taken _ hmet =>
    cases hmet.attribution.trans hpeer
    exact (h.take _ _).trans ((h.heard _ _).trans (hmet.view h.toSpared (hjoined _)))

end Handled

end Multilink.Dispatcher
