import Multilink.Proofs.Readings
import Multilink.Proofs.Receipts
/-!
# Announcements arrive as they are made

A node that is asked for its next window answers with two numbers in decimal digits, in one field of a
frame. The node that asked reads the same two numbers back and notes them with its own time; nothing
else of what it has on the other node changes by that (`Dispatcher.exchange_lossless`).

The two nodes meet in `Orchestrator.answer`, the payload between them.
-/

namespace Multilink

/-! ## Announcements are read back -/

namespace Announcement

theorem text_ne_question (wait awake : Micros) : text wait awake ≠ question := by
  intro h
  have hread := read?_text wait awake
  rw [h] at hread
  cases hread

theorem null_notMem_text (wait awake : Micros) : '\x00' ∉ (text wait awake).toList := by
  have hdigits (n : Nat) : '\x00' ∉ (Numeral.decimal n).toList := fun hmem => by
    cases Numeral.isDigit_of_mem_decimal hmem
  have htag : '\x00' ∉ tag.toList := by decide
  rw [toList_text]
  simp [hdigits, htag]

end Announcement

/-! ## The frame between two nodes -/

namespace Orchestrator

/-- The payload of the answer that a node gives when it is asked for its next window. -/
def answer (o : Orchestrator) : Bytes :=
  Fields.join [Fields.text (Announcement.text o.nextWindow.1 o.nextWindow.2)]

end Orchestrator

namespace Dispatcher

open Act

section

variable {W : Type} (w : Wiring W)

theorem fieldText?_of_text {kind : Kind} {v : UInt16} {s : String} {m : Message}
    (hnull : '\x00' ∉ s.toList)
    (hm : Frame.parse? (Frame.build kind v (Fields.join [Fields.text s])) = .ok m) :
    m.fieldText? 0 = some s := by
  have hfield := Frame.field?_zero_of_build hm
  rw [(Fields.takeWhile_eq_self_iff _).2 (by
    rw [Fields.text, Fields.terminator, Bytes.zero_mem_ofText]
    exact hnull)] at hfield
  rw [Message.fieldText?, hfield]
  exact Bytes.text?_ofText s

theorem take_orchestration {m : Message} (hk : m.kind = .orchestration) (a : Media)
    (peer : Handle) : take w peer { m with media := some a, peer := some peer } =
      takeOrchestration w peer { m with media := some a, peer := some peer } := by
  unfold take
  simp only [hk]

/-! ## The question -/

/-- The question is answered for what the node's own window is now. -/
theorem run_take_question {peer : Handle} {m : Message} {d t : Dispatcher W}
    {sent : Except Error Media} (hk : m.kind = .orchestration)
    (hm : m.fieldText? 0 = some Announcement.question) (a : Media)
    (hsend : (send w peer .orchestration m.conversation d.orchestrator.answer).run d = (sent, t)) :
    (take w peer { m with media := some a, peer := some peer }).run d =
      (sent.map fun _ => (), t) := by
  have htext : { m with media := some a, peer := some peer }.fieldText? 0 =
      some Announcement.question := hm
  rw [take_orchestration w hk]
  unfold takeOrchestration
  rw [htext]
  simp only [if_pos]
  rw [run_bind_ok (run_get d)]
  show ((send w peer .orchestration m.conversation d.orchestrator.answer) >>= fun _ => pure ()).run d =
    _
  rw [run_bind, hsend]
  cases sent <;> rfl

/-! ## The answer -/

/-- All that has changed is that this is known about the windows of the peer. -/
def Noted (peer : Handle) (a : Availability) (d t : Dispatcher W) : Prop :=
  ∃ before p after, d.peers.Seat peer before after p ∧
    t = { d with peers := d.peers.seating before after { p with availability := some a } }

theorem Noted.availability? {peer : Handle} {a : Availability} {d t : Dispatcher W}
    (h : Noted peer a d t) : availability? peer t = some a := by
  obtain ⟨before, p, after, hs, rfl⟩ := h
  have hseat : (d.peers.seating before after { p with availability := some a }).Seat peer before
      after { p with availability := some a } := hs.replace rfl
  have hfound := PeerStore.ofHandle?_of_split hseat.slots hseat.first hseat.handle
  rw [Dispatcher.availability?, PeerStore.run_snapshot, hfound, hseat.free]
  rfl

theorem run_take_text {peer : Handle} {m : Message} {wait awake : Micros} {d : Dispatcher W}
    (hk : m.kind = .orchestration) (hm : m.fieldText? 0 = some (Announcement.text wait awake))
    (a : Media) (hpeer : d.peers.Has peer) :
    ∃ t, (take w peer { m with media := some a, peer := some peer }).run d = (.ok (), t) ∧
      Noted peer ⟨d.orchestrator.clock.plus wait, awake, d.orchestrator.clock⟩ d t := by
  obtain ⟨free, hsome⟩ := hpeer
  obtain ⟨p, hp⟩ := Option.ne_none_iff_exists'.1 hsome
  obtain ⟨before, after, hs⟩ := PeerStore.exists_seat free hp
  have htext : { m with media := some a, peer := some peer }.fieldText? 0 =
      some (Announcement.text wait awake) := hm
  refine ⟨_, ?_, before, p, after, hs, rfl⟩
  rw [take_orchestration w hk]
  unfold takeOrchestration
  rw [htext]
  simp only [if_neg (Announcement.text_ne_question wait awake), Announcement.read?_text]
  rw [run_bind_ok (show now.run d = (.ok d.orchestrator.clock, d) from rfl)]
  exact run_onPeers (hs.update _)

/-- An announcement that is attributed to a peer is noted with the time at which it comes in. -/
theorem receive_told {f : Inbound} {v : UInt16} {wait awake : Micros} {d t : Dispatcher W}
    {peer : Handle}
    (hf : f.bytes =
      Frame.build .orchestration v (Fields.join [Fields.text (Announcement.text wait awake)]))
    (hsender : (resolveSender w f.sender f.media .orchestration).run d.countReceived =
      (.ok peer, t)) :
    ∃ u, (receive w f).run d = (.ok (), u) ∧
      Noted peer ⟨d.orchestrator.clock.plus wait, awake, d.orchestrator.clock⟩
        (t.heard f.media peer) u := by
  obtain ⟨m, c, hm, hv, hk, -⟩ := Frame.reads_of_build hf
  rw [← hk] at hsender
  have hrouted : Routed w f d.countReceived m peer t := ⟨hm, fun _ => ⟨c, hv⟩, hsender⟩
  have htext : m.fieldText? 0 = some (Announcement.text wait awake) :=
    fieldText?_of_text (Announcement.null_notMem_text _ _) (hf ▸ hm)
  rcases run_handOn w f m d.countReceived with ⟨e, hrun, -⟩ | ⟨h, t', hrun, hmet, -⟩
  · cases hsender.symm.trans hrun
  · cases hsender.symm.trans hrun
    have hhas : (t.heard f.media peer).peers.Has peer :=
      hmet.has.of_roster (PeerStore.keeps_roster_recordReceive peer f.media true t.peers)
    obtain ⟨u, htake, hnoted⟩ := run_take_text w hk htext f.media hhas
    have hclock : (t.heard f.media peer).orchestrator = d.orchestrator := hmet.orchestrator
    rw [hclock] at hnoted
    refine ⟨u, ?_, hnoted⟩
    rw [run_receive, hrouted.run_route, htake]

end

/-! ## From one node to the other -/

section

variable {V : Type} {w : Wiring V} {f : Inbound} {m : Message} {d : Dispatcher V}

/-- A question makes its receiver send a greeting at most, and the answer. -/
theorem calls_of_question (hm : Frame.parse? f.bytes = .ok m) (hk : m.kind = .orchestration)
    (hquestion : m.fieldText? 0 = some Announcement.question) :
    ∀ c ∈ ((receive w.watched f).run d.watched).2.world.calls,
      c.bytes = Frame.build .handshake 0 (w.helloPayload hello) ∨
        c.bytes = Frame.build .orchestration m.conversation d.orchestrator.answer := by
  let fit (bytes : Bytes) : Prop := bytes = Frame.build .handshake 0 (w.helloPayload hello) ∨
    bytes = Frame.build .orchestration m.conversation d.orchestrator.answer
  have hgreeting : fit (Frame.build .handshake 0 (w.watched.helloPayload hello)) :=
    .inl (by rw [Wiring.watched_helloPayload])
  have htake (m' : Message) (peer : Handle) (t : Dispatcher (Watched V))
      (hrouted : Routed w.watched f d.watched.countReceived m' peer t)
      (hmet : Met w.watched f.sender m'.kind d.watched.countReceived peer t) :
      Sends w peer fit 1 (t.heard f.media peer)
        ((take w.watched peer { m' with media := some f.media, peer := some peer }).run
          (t.heard f.media peer)).2 := by
    cases hm.symm.trans hrouted.read
    have horchestrator : (t.heard f.media peer).orchestrator = d.orchestrator := hmet.orchestrator
    have hposts : Posts w peer fit 1 (send w.watched peer .orchestration m.conversation
        (t.heard f.media peer).orchestrator.answer) :=
      posts_send (.inr (by rw [horchestrator]))
    have hsends := hposts (t.heard f.media peer)
    rcases hsend : (send w.watched peer .orchestration m.conversation
      (t.heard f.media peer).orchestrator.answer).run (t.heard f.media peer) with ⟨sent, u⟩
    rw [hsend] at hsends
    rw [run_take_question w.watched hk hquestion f.media hsend]
    exact hsends
  have hmails := receive_mails_routed w f d.watched (fun _ _ _ => hgreeting) htake
  exact fun c hc => (hmails.each c hc).1

/-- If its links work, a known sender gets the answer at once. -/
theorem answer_of_reaching {p : Peer} (hw : w.check = .ok ()) (hm : Frame.parse? f.bytes = .ok m)
    (hk : m.kind = .orchestration) (hquestion : m.fieldText? 0 = some Announcement.question)
    (hsound : f.checked = true → ∃ c, Frame.verify f.bytes = .ok c)
    {a : Address} {capacity : Nat} (hpeers : PeerStore.WellFormed a capacity d.peers.peers)
    (free : d.peers.held = false) (hp : d.peers.ofSender? f.sender = some p)
    (hlinks : w.Reaches p.media p.address
      (Frame.build .orchestration m.conversation d.orchestrator.answer) d.world) :
    ∃ c, ((receive w.watched f).run d.watched).2.world.calls = [c] ∧ c.ok = true ∧
      c.target = p.address ∧
      c.bytes = Frame.build .orchestration m.conversation d.orchestrator.answer := by
  let s := d.watched.countReceived
  have hrouted : Routed w.watched f s m p.handle s :=
    ⟨hm, hsound, run_resolveSender_free w.watched (d := s) free hp f.media m.kind⟩
  obtain ⟨sent, t, c, hrun, hcalls, hc⟩ := run_send_heard hw hpeers free hp
    (s := s.heard f.media p.handle) rfl hlinks
  refine ⟨c, ?_, hc⟩
  have horchestrator : (s.heard f.media p.handle).orchestrator = d.orchestrator := rfl
  rw [← horchestrator] at hrun
  have hview : posture ((receive w.watched f).run d.watched).2 =
      posture ((route w.watched f).run s).2 :=
    view_receive w.watched (fun _ _ => rfl) f d.watched
  have htake := run_take_question w.watched hk hquestion f.media hrun
  rw [hrouted.run_route, htake] at hview
  exact (congrArg Prod.snd hview).trans hcalls

/-- What a node forecasts when it is asked arrives as it is. Whoever handles the answer notes when the
window begins by its own clock, at the largest time at the latest, how long it is, and when the answer
came in; nothing else of what it has on the sender changes by that. A known sender whose links work is
answered at once. -/
theorem exchange_lossless (hm : Frame.parse? f.bytes = .ok m) (hk : m.kind = .orchestration)
    (hquestion : m.fieldText? 0 = some Announcement.question) :
    let calls := ((receive w.watched f).run d.watched).2.world.calls
    (∀ c ∈ calls, c.isOf .orchestration = true →
      ∀ {W : Type} (w' : Wiring W) (e u : Dispatcher W) (g : Inbound) (peer : Handle),
        g.bytes = c.bytes →
        (resolveSender w' g.sender g.media .orchestration).run e.countReceived = (.ok peer, u) →
        ∃ next t, (receive w' g).run e = (.ok (), t) ∧
          Noted peer ⟨next, d.orchestrator.nextWindow.2, e.orchestrator.clock⟩
            (u.heard g.media peer) t ∧
          next.toNat = min (e.orchestrator.clock.toNat + d.orchestrator.nextWindow.1.toNat)
            Micros.top.toNat) ∧
    ∀ {self : Address} {capacity : Nat}
      {tr : List (PeerStore.Call × Except Error PeerStore.Answer)} (p : Peer),
      w.check = .ok () → Trace PeerStore.Step (.new self capacity) tr d.peers →
      (f.checked = true → ∃ c, Frame.verify f.bytes = .ok c) → d.peers.held = false →
      d.peers.ofSender? f.sender = some p →
      w.Reaches p.media p.address
        (Frame.build .orchestration m.conversation d.orchestrator.answer) d.world →
      ∃ c, calls = [c] ∧ c.isOf .orchestration = true ∧ c.ok = true ∧ c.target = p.address := by
  intro calls
  constructor
  · intro c hc hkind W w' e u g peer hg hsender
    have hbytes : c.bytes = Frame.build .orchestration m.conversation d.orchestrator.answer := by
      rcases calls_of_question hm hk hquestion c hc with h | h
      · rw [Attempt.isOf_of_build h] at hkind
        cases hkind
      · exact h
    obtain ⟨t, hrun, hnoted⟩ := receive_told w' (hg.trans hbytes) hsender
    exact ⟨_, t, hrun, hnoted, Micros.toNat_plus _ _⟩
  · intro self capacity tr p hw hd hsound free hp hlinks
    obtain ⟨c, hcalls, hok, htarget, hbytes⟩ := answer_of_reaching hw hm hk hquestion hsound
      (PeerStore.Inv.trace hd).wellFormed free hp hlinks
    exact ⟨c, hcalls, Attempt.isOf_of_build hbytes, hok, htarget⟩

/-- A node asks for a window that begins after the end of its own clock. -/
theorem exchange_lossless_late :
    let w : Wiring Unit := { drivers := [.sink .busCan] }
    let d := { knowing ⟨2, 0, 0, 0, 0, 1⟩ ⟨2, 0, 0, 0, 0, 2⟩ 1 () with
      orchestrator := .make { awake := 1000, sleep := 5000 } 0 }
    let e := { knowing ⟨2, 0, 0, 0, 0, 2⟩ ⟨2, 0, 0, 0, 0, 1⟩ 1 () with
      orchestrator := .make {} 0xFFFFFFFFFFFFFF00 }
    let question := { asking with
      bytes := Frame.build .orchestration 7 (Fields.join [Fields.text Announcement.question]) }
    ∃ c t, ((receive w.watched question).run d.watched).2.world.calls = [c] ∧
      (receive w ⟨.address ⟨2, 0, 0, 0, 0, 1⟩, .busCan, c.bytes, true⟩).run e = (.ok (), t) ∧
      availability? ⟨1⟩ t = some ⟨.top, 1000, 0xFFFFFFFFFFFFFF00⟩ := by
  intro w d e question
  have hbytes : question.bytes = Frame.build .orchestration 7
    (Fields.join [Fields.text Announcement.question]) := rfl
  obtain ⟨m, _, hm, hv, hk, hconversation⟩ := Frame.reads_of_build hbytes
  have hquestion : m.fieldText? 0 = some Announcement.question := fieldText?_of_text (by decide) hm
  have hadded : PeerStore.Step (.new ⟨2, 0, 0, 0, 0, 1⟩ 1)
      ⟨.add "peer" ⟨2, 0, 0, 0, 0, 2⟩ (.singleton .busCan), false⟩ (.ok (.added ⟨1⟩)) d.peers := rfl
  obtain ⟨hnoted, hanswered⟩ := exchange_lossless (w := w) (d := d) hm hk hquestion
  rw [hconversation] at hanswered
  obtain ⟨c, hcalls, hkind, -⟩ := hanswered _ rfl (.snoc .nil hadded) (fun _ => ⟨_, hv⟩) rfl rfl
    (Wiring.reaches_sink rfl rfl (by decide +kernel) _ _)
  obtain ⟨next, t, hrun, hknown, hnext⟩ := hnoted c (hcalls ▸ .head _) hkind w e e.countReceived
    ⟨.address ⟨2, 0, 0, 0, 0, 1⟩, .busCan, c.bytes, true⟩ ⟨1⟩ rfl rfl
  have hlast : next = .top := UInt64.toNat_inj.1 (hnext.trans (by decide +kernel))
  refine ⟨c, t, hcalls, hrun, ?_⟩
  rw [hknown.availability?, hlast]
  rfl

end

end Dispatcher

end Multilink
