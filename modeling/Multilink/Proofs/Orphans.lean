import Multilink.Proofs.Isolation
/-!
# No orphan conversations

Conversations and peers are kept apart from each other, and applications keep handles of peers that
are long gone. Still every open conversation is with a peer that is there: `Dispatcher.Homed`. A call
can only break this for the one peer that it is for, as `Dispatcher.others` is left alone, so there is
one thing to show of each call, `Call.homes`: what is open with this peer afterwards has a peer.
-/

namespace Multilink.Dispatcher

open Act

variable {W : Type} {h : Handle} {d t : Dispatcher W}

/-- Every open conversation is with a live peer, and nobody holds the peers. -/
structure Homed (d : Dispatcher W) : Prop where
  free : d.peers.held = false
  live : ∀ c ∈ d.conversations.opened, d.peers.ofHandle? c.peer ≠ none

/-- What a call for a peer must see to itself: that nothing is open with this peer if it is not there,
and that nobody is left holding the peers. -/
structure Homes (h : Handle) (t : Dispatcher W) : Prop where
  free : t.peers.held = false
  live : ∀ c ∈ t.conversations.opened, c.peer = h → t.peers.ofHandle? h ≠ none

/-- Where the other peers and the conversations with them are left alone. -/
theorem Homed.of_others (hd : d.Homed) (hothers : t.others h = d.others h) (ht : Homes h t) :
    t.Homed := by
  refine ⟨ht.free, fun c hc => ?_⟩
  by_cases hpeer : c.peer = h
  · exact hpeer ▸ ht.live c hc hpeer
  · -- it was open before, with a peer that was there and still is
    have hconv : t.conversations.others h = d.conversations.others h := congrArg Prod.snd hothers
    have hopen : c ∈ d.conversations.others h :=
      hconv ▸ List.mem_filter.2 ⟨hc, by simpa using hpeer⟩
    obtain ⟨p, hp, hhandle⟩ := PeerStore.ofHandle?_ne_none_iff.1 (hd.live c (List.mem_filter.1 hopen).1)
    have hpeers : t.peers.others h = d.peers.others h := congrArg Prod.fst hothers
    have hkept : p ∈ t.peers.others h :=
      hpeers ▸ List.mem_filter.2 ⟨hp, by simpa [hhandle] using hpeer⟩
    exact PeerStore.ofHandle?_ne_none_iff.2 ⟨p, (List.mem_filter.1 hkept).1, hhandle⟩

/-- Where the peers are the same and nothing was opened. -/
theorem Homed.of_roster (hd : d.Homed) (hroster : t.peers.roster = d.peers.roster)
    (hopen : ∀ c ∈ t.conversations.opened, c ∈ d.conversations.opened) : t.Homed where
  free := (congrArg Prod.snd hroster).trans hd.free
  live c hc := by
    have hhas : d.peers.Has c.peer := ⟨hd.free, hd.live c (hopen c hc)⟩
    exact (hhas.of_roster hroster).2

theorem Homed.of_still (hd : d.Homed) (hstill : t.still = d.still) : t.Homed := by
  have hconv : t.conversations = d.conversations := congrArg Prod.fst hstill
  exact hd.of_roster (congrArg (fun v => v.2.2.2) hstill) fun c hc => hconv ▸ hc

/-! ## What calls leave open -/

theorem Homed.homes (ht : t.Homed) (h : Handle) : Homes h t :=
  ⟨ht.free, fun c hc hpeer => hpeer ▸ ht.live c hc⟩

/-- With the peer there, whatever is open. -/
theorem homes_of_has (ht : t.peers.Has h) : Homes h t :=
  ⟨ht.1, fun _ _ _ => ht.2⟩

theorem handled_roster (h : Handle) : Handled (W := W) (fun d => d.peers.roster) h where
  peers _ hf d := PeerStore.keeps_roster_withPeer hf d.peers
  sent _ := rfl
  failed _ := rfl
  transmit _ _ _ _ _ := rfl
  counted _ _ := rfl
  opened _ _ _ := rfl
  closed _ _ _ := rfl
  queued := keeps_enqueue (fun _ _ => rfl) fun _ _ => rfl
  introduced _ _ _ d := PeerStore.keeps_roster_updateIdentity h _ _ _ d.peers
  awaited _ d := PeerStore.keeps_roster_setAvailability h _ d.peers
  acted _ _ := rfl

/-- A frame is of a peer that is there, or it opens nothing. -/
theorem homes_receive (w : Wiring W) (f : Inbound) (hd : d.Homed) :
    Homes (d.peers.attribution f.sender) ((receive w f).run d).2 := by
  let view (d : Dispatcher W) := (d.peers, d.conversations)
  have hview : view ((receive w f).run d).2 = view ((route w f).run d.countReceived).2 :=
    view_receive w (fun _ _ => rfl) f d
  have hpeers : ((receive w f).run d).2.peers = ((route w f).run d.countReceived).2.peers :=
    congrArg Prod.fst hview
  have hconv : ((receive w f).run d).2.conversations =
      ((route w f).run d.countReceived).2.conversations := congrArg Prod.snd hview
  have hway := way w f d.countReceived
  generalize (route w f).run d.countReceived = o at hway hpeers hconv
  have hsame (ho : o.2.peers.roster = d.peers.roster)
      (hopen : o.2.conversations = d.conversations) :
      Homes (d.peers.attribution f.sender) ((receive w f).run d).2 :=
    (hd.of_roster ((congrArg PeerStore.roster hpeers).trans ho)
      fun c hc => by rwa [hconv, hopen] at hc).homes _
  cases hway with
  | unreadable => exact hsame rfl rfl
  | unattributed => exact hsame rfl rfl
  | damaged _ _ _ hrefused =>
    have hroster := (handled_roster (W := W) (d.peers.attribution f.sender)).checkIntegrity
      (f := f) (d := d.countReceived) rfl
    have hopen : ((checkIntegrity f).run d.countReceived).2.conversations = d.conversations :=
      view_checkIntegrity (fun _ _ => rfl) fun _ _ _ => rfl
    rw [hrefused] at hroster hopen
    exact hsame hroster hopen
  | @taken m peer t hrouted hmet =>
    have hpeer : peer = d.peers.attribution f.sender := hmet.attribution
    have hroster := ((handled_roster peer).take (w := w)
      { m with media := some f.media, peer := some peer } (t.heard f.media peer)).trans
      ((handled_roster peer).heard f.media t)
    rw [← hpeer]
    refine homes_of_has (hmet.has.of_roster ?_)
    exact (congrArg PeerStore.roster hpeers).trans hroster

/-- A conversation that could not be begun is closed again. -/
theorem homes_startConversation (w : Wiring W) (kind : Kind) (reason : String) (payload : Bytes)
    (hd : d.Homed) : Homes h ((startConversation w h kind reason payload).run d).2 := by
  have hstill (id next : UInt16) :=
    (spared_still h).send w kind id payload (d.begun h reason id next)
  have hstarted := started w h kind reason payload d
  generalize (startConversation w h kind reason payload).run d = o at hstarted
  cases hstarted with
  | full =>
    refine Homed.homes (hd.of_roster ?_ ?_) h
    · rfl
    · exact fun _ hc => hc
  | @sent id next _ _ _ hsend =>
    -- nothing can be sent to a peer that is not there
    have hkept := hstill id next
    rw [hsend] at hkept
    exact homes_of_has ((has_of_sent w hsend).of_roster (congrArg (fun v => v.2.2.2) hkept))
  | @unsent id next _ _ _ hsend =>
    have hkept := hstill id next
    rw [hsend] at hkept
    refine Homed.homes (hd.of_roster ?_ ?_) h
    · exact congrArg (fun v => v.2.2.2) hkept
    · exact fun _ hc => hc

theorem Homed.reply (hd : d.Homed) (w : Wiring W) (m : Message) (payload : Bytes) :
    ((reply w m payload).run d).2.Homed := by
  unfold Dispatcher.reply
  cases m.peer with
  | none => exact hd
  | some peer =>
    have hstill := (spared_still peer).send w .reply m.conversation payload d
    rcases hsend : (send w peer .reply m.conversation payload).run d with ⟨sent, t⟩
    rw [hsend] at hstill
    have hconv : t.conversations = d.conversations := congrArg Prod.fst hstill
    rw [run_bind_attempt hsend]
    split
    · refine hd.of_roster (congrArg (fun v => v.2.2.2) hstill) fun c hc => ?_
      have hsub := Tracker.closeIf_sublist peer m.conversation (fun c => !c.ours) t.conversations
      exact hconv ▸ hsub.subset hc
    · exact hd.of_still hstill

/-- Nothing stays open with a peer that is removed. -/
theorem homes_removePeer (hd : d.Homed) :
    Homes h ((removePeer h : Act (Dispatcher W) Unit).run d).2 := by
  have herror {e : Error} (hrun : (PeerStore.remove h).run d.peers = (.error e, d.peers)) :
      Homes h ((removePeer h : Act (Dispatcher W) Unit).run d).2 := by
    unfold removePeer
    rw [run_bind_error (run_onPeers hrun)]
    exact hd.homes h
  rcases PeerStore.run_remove h d.peers with
    ⟨-, hrun⟩ | ⟨-, -, hrun⟩ | ⟨hfree, p, slots, -, -, hrun⟩
  · exact herror hrun
  · exact herror hrun
  · unfold removePeer
    rw [run_bind_ok (run_onPeers hrun)]
    refine ⟨hfree, fun c hc hpeer => ?_⟩
    have hkept := (List.mem_filter.1 hc).2
    simp [hpeer] at hkept

/-- A new peer leaves the others where they are. -/
theorem Homed.joined (hd : d.Homed) (p : Peer) : (d.joined p).Homed := by
  refine ⟨hd.free, fun c hc => ?_⟩
  have hperm : (d.joined p).peers.peers.Perm (p :: d.peers.peers) := PeerStore.peers_place rfl
  obtain ⟨q, hq, hhandle⟩ := PeerStore.ofHandle?_ne_none_iff.1 (hd.live c hc)
  exact PeerStore.ofHandle?_ne_none_iff.2 ⟨q, hperm.symm.subset (.tail _ hq), hhandle⟩

theorem Homed.provision (hd : d.Homed) (name : String) (a : Address) (media : MediaSet) :
    ((Dispatcher.provision name a media).run d).2.Homed := by
  unfold Dispatcher.provision
  rcases PeerStore.add_cases name a media d.peers with ⟨e, hrun, -⟩ | ⟨p, -, -, hrun⟩
  · rw [run_bind_error (run_onPeers hrun)]
    exact hd
  · have hmark : Keeps still
        (onPeers (PeerStore.markProvisioned p.handle) : Act (Dispatcher W) Unit) :=
      keeps_still_onPeers (PeerStore.keeps_roster_update fun _ => rfl)
    rw [run_bind_ok (run_onPeers hrun)]
    exact (hd.joined p).of_still ((hmark.bind fun _ => Keeps.pure p.handle) (d.joined p))

/-- What a call for a peer sees to itself. -/
theorem Call.homes (w : Wiring W) (c : Call) (hd : d.Homed) (hc : c.peer? d = some h) :
    Homes h ((c.act w).run d).2 := by
  have hspared := spared_still (W := W) h
  cases c with
  | receive f =>
    cases hc
    rw [Call.act, run_map]
    exact homes_receive w f hd
  | reply m payload =>
    rw [Call.act, run_map]
    exact (hd.reply w m payload).homes h
  | provision => cases hc
  | send peer kind v payload =>
    cases hc
    exact (hd.of_still ((hspared.send w kind v payload).map _ d)).homes h
  | sendMessage peer bytes =>
    cases hc
    exact (hd.of_still ((hspared.sendMessage w bytes).map _ d)).homes h
  | startConversation peer kind reason payload =>
    cases hc
    rw [Call.act, run_map]
    exact homes_startConversation w kind reason payload hd
  | removePeer peer =>
    cases hc
    rw [Call.act, run_map]
    exact homes_removePeer hd
  | handshake peer =>
    cases hc
    exact (hd.of_still ((hspared.handshake w).map _ d)).homes h
  | sendWhen peer =>
    cases hc
    exact (hd.of_still (((hspared.send w _ _ _).bind fun _ => Keeps.pure ()).map _ d)).homes h

/-! ## Calls in a row -/

/-- A call, on the dispatcher as it was left but for what other activities have done meanwhile to its
queue, its windows, its counts and the world of its drivers. -/
def Calls (w : Wiring W) (d : Dispatcher W) (c : Call) (r : Except Error Answer) (t : Dispatcher W) :
    Prop :=
  ∃ d', d'.peers = d.peers ∧ d'.conversations = d.conversations ∧ (c.act w).run d' = (r, t)

theorem Homed.calls {w : Wiring W} {c : Call} {r : Except Error Answer} (hd : d.Homed)
    (hstep : Calls w d c r t) : t.Homed := by
  obtain ⟨d', hpeers, hconv, hrun⟩ := hstep
  have hd' : d'.Homed := ⟨hpeers ▸ hd.free, by rw [hconv, hpeers]; exact hd.live⟩
  rw [show t = ((c.act w).run d').2 from (congrArg Prod.snd hrun).symm]
  cases hc : c.peer? d' with
  | some h => exact hd'.of_others (Call.others w c hc) (Call.homes w c hd' hc)
  | none =>
    cases c with
    | provision name a media =>
      rw [Call.act, run_map]
      exact hd'.provision name a media
    | reply m payload =>
      rw [Call.act, run_map]
      exact hd'.reply w m payload
    | _ => cases hc

/-- After any calls on a new dispatcher, whatever its drivers, its queue and its handlers do and
whether the handles used are those of peers or not, every open conversation is with a live peer. -/
theorem no_orphans (w : Wiring W) {d t : Dispatcher W} {a : Address} {capacity : Nat}
    {tr : List (Call × Except Error Answer)} (hpeers : d.peers = .new a capacity)
    (hnone : d.conversations.opened = []) (h : Trace (Calls w) d tr t) :
    ∀ c ∈ t.conversations.opened, ∃ p ∈ t.peers.peers, p.handle = c.peer := by
  have hhomed : t.Homed := by
    induction h with
    | nil => exact ⟨by rw [hpeers]; rfl, by simp [hnone]⟩
    | snoc _ hstep ih => exact ih.calls hstep
  exact fun c hc => PeerStore.ofHandle?_ne_none_iff.1 (hhomed.live c hc)

theorem Calls.of_run {w : Wiring W} {c : Call} {r : Except Error Answer}
    (hr : ((c.act w).run d).1 = r) : Calls w d c r ((c.act w).run d).2 :=
  ⟨d, rfl, rfl, Prod.ext hr rfl⟩

/-- A request opens a conversation that goes with its peer. The handle is used once more, in vain, and
the peer gets another one when it comes back. -/
theorem stale_handle :
    let w : Wiring Unit := { drivers := [.sink .busCan] }
    let d := alone ⟨2, 0, 0, 0, 0, 1⟩ 16 ()
    let come := Call.provision "remote" ⟨2, 0, 0, 0, 0, 2⟩ (.singleton .busCan)
    let start (h : Handle) := Call.startConversation h .request "question" [0x78, 0x00]
    ∃ t, Trace (Calls w) d
        [(come, .ok (.added ⟨1⟩)), (.receive asking, .ok .done), (.removePeer ⟨1⟩, .ok .done),
          (start ⟨1⟩, .error (.peerNotFound ⟨1⟩)), (come, .ok (.added ⟨2⟩)),
          (start ⟨2⟩, .ok (.opened 2))] t ∧
      t.conversations.opened = [⟨2, ⟨2⟩, "question", true⟩] ∧ ∃ p ∈ t.peers.peers, p.handle = ⟨2⟩ := by
  intro w d come start
  let after (d : Dispatcher Unit) (c : Call) := ((c.act w).run d).2
  let t₁ := after d come
  let t₂ := after t₁ (.receive asking)
  let t₃ := after t₂ (.removePeer ⟨1⟩)
  let t₄ := after t₃ (start ⟨1⟩)
  let t₅ := after t₄ come
  let t₆ := after t₅ (start ⟨2⟩)
  have h₁ : Calls w d come (.ok (.added ⟨1⟩)) t₁ := .of_run (by decide +kernel)
  have h₂ : Calls w t₁ (.receive asking) (.ok .done) t₂ := .of_run (by decide +kernel)
  have h₃ : Calls w t₂ (.removePeer ⟨1⟩) (.ok .done) t₃ := .of_run (by decide +kernel)
  have h₄ : Calls w t₃ (start ⟨1⟩) (.error (.peerNotFound ⟨1⟩)) t₄ := .of_run (by decide +kernel)
  have h₅ : Calls w t₄ come (.ok (.added ⟨2⟩)) t₅ := .of_run (by decide +kernel)
  have h₆ : Calls w t₅ (start ⟨2⟩) (.ok (.opened 2)) t₆ := .of_run (by decide +kernel)
  have htrace := (((((Trace.nil.snoc h₁).snoc h₂).snoc h₃).snoc h₄).snoc h₅).snoc h₆
  have hopen : t₆.conversations.opened = [⟨2, ⟨2⟩, "question", true⟩] := by decide +kernel
  have hlive := no_orphans w rfl rfl htrace
  rw [hopen] at hlive
  exact ⟨t₆, htrace, hopen, hlive _ (.head _)⟩

end Multilink.Dispatcher
