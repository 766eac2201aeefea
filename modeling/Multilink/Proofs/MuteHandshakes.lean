import Multilink.Proofs.Introductions
import Multilink.Proofs.Scorings
/-!
# Handshakes that tell no media

A handshake tells the media of its sender, but it may have no such field, or one that says nothing. The
store takes an empty set of media to mean that there is nothing new. It is never given one, as the medium
that a handshake arrives on is put into the set before: after a handshake that tells no media this is the
only medium of the peer, and what was known about its links on others is gone
(`Dispatcher.mute_handshake_iff`).
-/

namespace Multilink

/-! ## Statistics that go on -/

/-- Statistics of a link later on: all that has happened to them is that outcomes were noted, speeds
measured and scores taken. -/
inductive LinkStats.Continues {R : Type} [ScoreNumber R] (s : LinkStats R) : LinkStats R → Prop
  | refl : Continues s s
  | noted {t : LinkStats R} (h : Continues s t) (x : LinkOutcome) : Continues s (t.note x)
  | measured {t : LinkStats R} (h : Continues s t) (speed : UInt32) :
      Continues s { t with measuredSpeed := speed }
  | scored {t : LinkStats R} (h : Continues s t) (p : Profile R) (length : Nat) (now : Micros) :
      Continues s (t.score p length now).2

theorem LinkStats.Continues.trans {R : Type} [ScoreNumber R] {s t u : LinkStats R}
    (h : s.Continues t) (h' : t.Continues u) : s.Continues u := by
  induction h' with
  | refl => exact h
  | noted _ x ih => exact ih.noted x
  | measured _ speed ih => exact ih.measured speed
  | scored _ p length now ih => exact ih.scored p length now

namespace Peer

/-- All statistics of the peer go on. -/
def Continues (p q : Peer) : Prop :=
  ∀ m s, p.stats.get m = some s → ∃ t, q.stats.get m = some t ∧ s.Continues t

namespace Continues

variable {p q r : Peer}

theorem refl (p : Peer) : p.Continues p :=
  fun _ s hs => ⟨s, hs, .refl⟩

theorem trans (hpq : p.Continues q) (hqr : q.Continues r) : p.Continues r := by
  intro m s hs
  obtain ⟨t, ht, hst⟩ := hpq m s hs
  obtain ⟨u, hu, htu⟩ := hqr m t ht
  exact ⟨u, hu, hst.trans htu⟩

theorem updateStats (p : Peer) (n : Media) {f : LinkStats Score → LinkStats Score}
    (hf : ∀ s : LinkStats Score, s.Continues (f s)) : p.Continues (p.updateStats n f) := by
  intro m s hs
  rw [Peer.updateStats, PerMedia.get_set]
  by_cases hmn : m = n
  · subst hmn
    exact ⟨f s, by rw [if_pos rfl, hs]; rfl, hf s⟩
  · exact ⟨s, by rw [if_neg hmn, hs], .refl⟩

theorem score? (p : Peer) (profiles : Profiles) (now : Micros) (length : Nat) (n : Media) :
    p.Continues (p.score? profiles now length n).2 := by
  intro m s hs
  by_cases hmn : m = n
  · subst hmn
    exact ⟨_, by rw [stats_score?_self, hs]; rfl, .scored .refl _ _ _⟩
  · exact ⟨s, (stats_score?_of_ne hmn).trans hs, .refl⟩

theorem selectFrom (p : Peer) (profiles : Profiles) (now : Micros) (length : Nat) (ms : List Media)
    (best : Option (Media × Score)) : p.Continues (selectFrom profiles now length ms best p).2 := by
  induction ms generalizing best p with
  | nil => exact .refl p
  | cons n rest ih =>
    obtain ⟨best', hcons⟩ := exists_selectFrom_cons profiles now length n rest best p
    rw [hcons]
    exact (score? p profiles now length n).trans (ih _ best')

theorem note {V : Type} (p : Peer) (c : Attempt V) : p.Continues (p.note c) := by
  have hsent : p.Continues (p.updateStats c.media (·.recordSend c.ok)) :=
    updateStats p c.media fun s => .noted .refl (.sent c.ok)
  unfold Peer.note
  dsimp only
  split
  · exact hsent.trans (updateStats _ _ fun s => .measured .refl _)
  · exact hsent

end Continues

end Peer

theorem Errand.Tries.continues {V : Type} {e : Errand V} {n : Nat} {p q : Peer} {v u : V}
    {cs : List (Attempt V)} {r : Except Error Media} (h : e.Tries n p v cs r q u) :
    p.Continues q := by
  have hpick (p : Peer) : p.Continues (e.pick p).2 := .selectFrom p _ _ _ _ _
  induction h with
  | spent => exact .refl _
  | unmatched | uncarried => exact hpick _
  | sent => exact (hpick _).trans (.note _ _)
  | failed _ _ _ _ ih => exact ((hpick _).trans (.note _ _)).trans ih

/-! ## What is told about media -/

theorem MediaSet.contains_singleton (m n : Media) : (singleton m).contains n = true ↔ n = m := by
  cases m <;> cases n <;> decide

/-- The message tells no media: the field for them is missing, is no byte in decimal, or is one that
stands for no medium. -/
def Message.Mute (m : Message) : Prop :=
  ∀ b, (m.fieldText? 2).bind Numeral.readByte? = some b → MediaSet.ofBits b = .empty

theorem Message.Mute.announcedMedia {m : Message} {a : Media} (h : m.Mute) (ha : m.media = some a) :
    Dispatcher.announcedMedia m = .singleton a := by
  have hempty : (((m.fieldText? 2).bind Numeral.readByte?).map MediaSet.ofBits).getD .empty = .empty := by
    cases hb : (m.fieldText? 2).bind Numeral.readByte? with
    | none => rfl
    | some b => exact h b hb
  rw [Dispatcher.announcedMedia, hempty, ha]
  cases a <;> rfl

namespace PeerStore

/-- A mute handshake leaves the peer with the medium that it arrived on. -/
theorem introduced_of_mute {m : Message} {a : Media} (h : m.Mute) (ha : m.media = some a)
    (s : PeerStore) (p : Peer) : (s.introduced m p).media = .singleton a ∧
      ∀ stats, p.stats.get a = some stats → (s.introduced m p).stats.get a = some stats := by
  have htold := h.announcedMedia ha
  have hsome : (MediaSet.singleton a).isEmpty = false := htold ▸ announced_isEmpty ha
  rw [introduced, introduce, htold]
  simp only [hsome, Bool.false_eq_true, if_false]
  refine ⟨rfl, fun stats hstats => ?_⟩
  rw [Peer.setMedia, PerMedia.get_ofFn, if_pos ((MediaSet.contains_singleton a a).2 rfl), hstats]
  rfl

end PeerStore

namespace Dispatcher

open Act

variable {V : Type} {w : Wiring V} {peer : Handle} {before after : List (Option Peer)} {p : Peer}

/-- The statistics of the sender go on from those that its handshake has left, whatever is sent to it. -/
theorem run_takeHandshake_continues {d : Dispatcher (Watched V)} {m : Message} {tag : String}
    (hs : d.peers.Seat peer before after p) (hm : m.fieldText? 0 = some tag)
    (htag : tag = hello ∨ tag = helloAnswer) :
    ∃ r q u cs, (takeHandshake w.watched peer m).run d = (r, d.tried before after q u cs) ∧
      (d.peers.introduced m p).Recounted q ∧ (d.peers.introduced m p).Continues q := by
  have hkept := d.peers.identity_introduced m p
  have hseat : (d.seated before after (d.peers.introduced m p)).peers.Seat peer before after
      (d.peers.introduced m p) := hs.replace (congrArg Identity.handle hkept)
  rw [run_takeHandshake_seat hs hm htag]
  split
  · obtain ⟨cs, sent, q, u, hrun, htries⟩ := run_sendMessage_seat w
      (Frame.build .handshake m.conversation (w.helloPayload helloAnswer)) hseat
    refine ⟨sent.map fun _ => (), q, u, cs, ?_, htries.recounted, htries.continues⟩
    have hsend : (send w.watched peer .handshake m.conversation (w.helloPayload helloAnswer)).run
        (d.seated before after (d.peers.introduced m p)) = (sent, _) := hrun
    rw [run_bind, hsend]
    cases sent <;> rfl
  · rw [seated_eq_tried]
    exact ⟨_, _, _, _, rfl, .refl _, .refl _⟩

/-- What a sound frame of a known peer does to the peers is up to the handler of its message, unless
somebody holds them. -/
theorem peers_receive_known {W : Type} {w : Wiring W} {f : Inbound} {m : Message} {d : Dispatcher W}
    (hread : Frame.parse? f.bytes = .ok m)
    (hsound : f.checked = true → ∃ c, Frame.verify f.bytes = .ok c)
    (hp : d.peers.ofSender? f.sender = some p) :
    ((receive w f).run d).2.peers =
      if d.peers.held then d.peers
      else ((take w p.handle { m with media := some f.media, peer := some p.handle }).run
        (d.countReceived.heard f.media p.handle)).2.peers := by
  have hpeers : ((receive w f).run d).2.peers = ((route w f).run d.countReceived).2.peers :=
    view_receive w (fun _ _ => rfl) f d
  have hsender := run_resolveSender_known w (d := d.countReceived) hp f.media m.kind
  rw [hpeers]
  cases hheld : d.peers.held with
  | true =>
    rw [show d.countReceived.peers.held = true from hheld] at hsender
    rw [run_route_sound w hread hsound, handOn, run_bind_error hsender]
    rfl
  | false =>
    rw [show d.countReceived.peers.held = false from hheld] at hsender
    have hrouted : Routed w f d.countReceived m p.handle d.countReceived := ⟨hread, hsound, hsender⟩
    rw [hrouted.run_route]
    rfl

/-- The sender of a mute handshake is left with the medium that it arrived on, and keeps what is known
about this one. -/
theorem receive_mute {f : Inbound} {m : Message} {d : Dispatcher V} {self : Address} {capacity : Nat}
    {given taken : List Handle} {tag : String} (hi : PeerStore.Inv self capacity given taken d.peers)
    (free : d.peers.held = false) (hread : Frame.parse? f.bytes = .ok m)
    (hsound : f.checked = true → ∃ c, Frame.verify f.bytes = .ok c) (hkind : m.kind = .handshake)
    (hm : m.fieldText? 0 = some tag) (htag : tag = hello ∨ tag = helloAnswer) (hmute : m.Mute)
    (hp : d.peers.ofSender? f.sender = some p) :
    ∃ q, ((receive w f).run d).2.peers.ofSender? f.sender = some q ∧ q.media = .singleton f.media ∧
      ∀ s, p.stats.get f.media = some s → ∃ t, q.stats.get f.media = some t ∧ s.Continues t := by
  obtain ⟨before, after, hs⟩ := hi.wellFormed.exists_seat free (List.mem_of_find?_eq_some hp)
  have hs' : d.watched.countReceived.peers.Seat p.handle before after p := hs
  let p' := p.updateStats f.media (·.recordReceive true)
  let m' := { m with media := some f.media, peer := some p.handle }
  let s' := d.peers.seating before after p'
  have hheard : p.Continues p' := .updateStats p f.media fun s => .noted .refl (.received true)
  obtain ⟨r, q, u, cs, hrun, hrecounted, hgoes⟩ := run_takeHandshake_continues (w := w) (m := m')
    (d := { d.watched.countReceived with peers := s' }) (hs'.replace (q := p') rfl) hm htag
  have hpeers : ((receive w f).run d).2.peers = d.peers.seating before after q := by
    have hwatched : (receive w f).run d = _ := through_receive w f d.watched
    have hknown := peers_receive_known (w := w.watched) (d := d.watched) hread hsound hp
    rw [show d.watched.peers.held = false from free, heard_seat hs', take, hkind] at hknown
    rw [hwatched]
    exact hknown.trans (congrArg (fun o => o.2.peers) hrun)
  have hidentity : q.identity = p.identity :=
    hrecounted.identity.trans (PeerStore.identity_introduced _ _ _)
  obtain ⟨hmedia, hkept⟩ := PeerStore.introduced_of_mute (m := m') (a := f.media) hmute rfl s' p'
  rw [hpeers]
  refine ⟨q, hs.ofSender? hp hidentity, ?_, fun s hstats => ?_⟩
  · obtain ⟨stats, rfl⟩ := hrecounted.rest
    exact hmedia
  · obtain ⟨t, ht, hst⟩ := hheard f.media s hstats
    obtain ⟨u, hu, htu⟩ := hgoes f.media t (hkept t ht)
    exact ⟨u, hu, hst.trans htu⟩

/-- After a handshake that tells no media its sender has the medium that it arrived on and no other, with
what was known about this one. So the sender keeps its media and what is known about them if and only if
it has no other, or somebody holds the peers and the handshake is refused. -/
theorem mute_handshake_iff {f : Inbound} {m : Message} {d : Dispatcher V} {self : Address}
    {capacity : Nat} {tr : List (PeerStore.Call × Except Error PeerStore.Answer)}
    (hd : Trace PeerStore.Step (.new self capacity) tr d.peers)
    (hread : Frame.parse? f.bytes = .ok m)
    (hsound : f.checked = true → ∃ c, Frame.verify f.bytes = .ok c) (hkind : m.kind = .handshake)
    (htag : m.fieldText? 0 = some hello ∨ m.fieldText? 0 = some helloAnswer) (hmute : m.Mute)
    (hp : d.peers.ofSender? f.sender = some p) :
    let t := ((receive w f).run d).2
    (d.peers.held = true → t.peers = d.peers) ∧
    (d.peers.held = false → ∃ q, t.peers.ofSender? f.sender = some q ∧ q.media = .singleton f.media ∧
      ∀ s, p.stats.get f.media = some s → ∃ s', q.stats.get f.media = some s' ∧ s.Continues s') ∧
    ((∃ q, t.peers.ofSender? f.sender = some q ∧
        (∀ k, p.media.contains k = true → q.media.contains k = true) ∧ p.Continues q) ↔
      d.peers.held = true ∨ ∀ k, p.media.contains k = true → k = f.media) := by
  intro t
  have hi := PeerStore.Inv.trace hd
  have hrefused (hheld : d.peers.held = true) : t.peers = d.peers := by
    have hknown := peers_receive_known (w := w) hread hsound hp
    rwa [if_pos hheld] at hknown
  have hmuted (free : d.peers.held = false) : ∃ q, t.peers.ofSender? f.sender = some q ∧
      q.media = .singleton f.media ∧
      ∀ s, p.stats.get f.media = some s → ∃ s', q.stats.get f.media = some s' ∧ s.Continues s' := by
    rcases htag with htag | htag
    · exact receive_mute hi free hread hsound hkind htag (.inl rfl) hmute hp
    · exact receive_mute hi free hread hsound hkind htag (.inr rfl) hmute hp
  refine ⟨hrefused, hmuted, ?_⟩
  cases hheld : d.peers.held with
  | true =>
    refine iff_of_true ⟨p, ?_, fun _ hk => hk, .refl p⟩ (.inl rfl)
    rw [hrefused hheld]
    exact hp
  | false =>
    obtain ⟨q, hq, hmedia, hkept⟩ := hmuted hheld
    rw [or_iff_right Bool.false_ne_true]
    constructor
    · rintro ⟨r, hr, hstays, -⟩ k hk
      cases hq.symm.trans hr
      exact (MediaSet.contains_singleton _ _).1 (hmedia ▸ hstays k hk)
    · intro honly
      refine ⟨q, hq, fun k hk => ?_, fun k s hs => ?_⟩
      · rw [hmedia, MediaSet.contains_singleton]
        exact honly k hk
      · have hmeasured := hi.wellFormed.measured p (List.mem_of_find?_eq_some hp) k
        rw [hs] at hmeasured
        cases honly k hmeasured.symm
        exact hkept s hs

/-- A peer with two media answers a greeting without its media, and is left with one. -/
theorem answer_without_media :
    let w : Wiring Unit := { drivers := [.sink .busCan] }
    let remote : Address := ⟨2, 0, 0, 0, 0, 2⟩
    let media := MediaSet.ofList [.busCan, .busTtl]
    let d := { alone ⟨2, 0, 0, 0, 0, 1⟩ 16 () with
      peers := ((PeerStore.add "remote" remote media).run (.new ⟨2, 0, 0, 0, 0, 1⟩ 4)).2 }
    let f := { asking with
      bytes := Frame.build .handshake 0 (Fields.join [Fields.text helloAnswer, Fields.text "remote"]) }
    let after := ((receive w f).run d).2
    ∃ p q, d.peers.ofSender? f.sender = some p ∧ p.media = media ∧
      after.peers.ofSender? f.sender = some q ∧ q.media = .singleton .busCan ∧
      ¬ ∃ q, after.peers.ofSender? f.sender = some q ∧
        (∀ k, p.media.contains k = true → q.media.contains k = true) ∧ p.Continues q := by
  intro w remote media d f after
  let m := Message.outbound .handshake 0 (Fields.join [Fields.text helloAnswer, Fields.text "remote"])
  have hadded : PeerStore.Step (.new ⟨2, 0, 0, 0, 0, 1⟩ 4) ⟨.add "remote" remote media, false⟩
      (.ok (.added ⟨1⟩)) d.peers := rfl
  have hread : Frame.parse? f.bytes = .ok m := by
    rw [Frame.parse?_build, Fields.terminate_join]
    rfl
  have hsound : f.checked = true → ∃ c, Frame.verify f.bytes = .ok c := fun _ =>
    ⟨_, Frame.verify_build _ _ _⟩
  have htag : m.fieldText? 0 = some helloAnswer := by decide +kernel
  have hmute : m.Mute := by
    have hnone : (m.fieldText? 2).bind Numeral.readByte? = none := by decide +kernel
    exact fun b hb => by cases hnone.symm.trans hb
  have hp : d.peers.ofSender? f.sender = some (.make ⟨1⟩ "remote" remote media ⟨2, 0, 0, 0, 0, 1⟩) := rfl
  obtain ⟨-, hmuted, hkeeps⟩ :=
    mute_handshake_iff (w := w) (.snoc .nil hadded) hread hsound rfl (.inr htag) hmute hp
  obtain ⟨q, hq, hmedia, -⟩ := hmuted rfl
  refine ⟨_, q, hp, rfl, hq, hmedia, fun h => ?_⟩
  rcases hkeeps.1 h with hheld | honly
  · cases hheld
  · exact absurd (honly .busTtl (by decide)) (by decide)

end Dispatcher

end Multilink
