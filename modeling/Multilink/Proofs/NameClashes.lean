import Multilink.Proofs.Intake
import Multilink.Proofs.Newcomers
import Multilink.Proofs.Orphans
/-!
# Strangers whose names are taken

A peer that is learned from its first frame is named after its address, by the end of it or by the whole.
Other peers may have these names: they can be configured, and every peer chooses its own. Where both are
taken the stranger is refused, though there would be room for it, and so is every frame that it sends
(`Dispatcher.stranger_learned_iff`).
-/

namespace Multilink

/-- The errors of handling a message: a filter or the queue rejects it, its fields are not those that its
kind asks for, or its peer cannot be reached. -/
def Error.isHandling : Error → Bool
  | .filtered _ | .queue _ | .invalidPayload _ => true
  | e => e.isReaching

theorem Error.isHandling_of_isReaching {e : Error} (h : e.isReaching = true) :
    e.isHandling = true := by
  cases e <;> first | rfl | exact h

theorem PeerStore.exists_address_of_roster {s t : PeerStore} (h : t.roster = s.roster) (a : Address) :
    (∃ p ∈ t.peers, p.address = a) ↔ ∃ p ∈ s.peers, p.address = a := by
  have hidentities (u : PeerStore) :
      (∃ p ∈ u.peers, p.address = a) ↔ ∃ i ∈ u.identities, i.address = a := by
    simp [identities, Peer.identity]
  rw [hidentities, hidentities, show t.identities = s.identities from congrArg Prod.fst h]

namespace Dispatcher

open Act

variable {W : Type} (w : Wiring W)

/-! ## Errors of handlers -/

theorem failsWith_enqueue (m : Message) :
    FailsWith (·.isHandling = true) (enqueue m : Act (Dispatcher W) Unit) := by
  intro d e he
  rcases run_enqueue m d with ⟨e', queue, -, hrun⟩ | ⟨queue, -, hrun⟩
  · rw [hrun] at he
    cases he
    rfl
  · rw [hrun] at he
    cases he

theorem failsWith_handling_send (peer : Handle) (kind : Kind) (v : UInt16) (payload : Bytes) :
    FailsWith (·.isHandling = true) (send w peer kind v payload) :=
  (failsWith_send w peer kind v payload).mono fun _ => Error.isHandling_of_isReaching

theorem failsWith_takeHandshake (peer : Handle) (m : Message) :
    FailsWith (·.isHandling = true) (takeHandshake w peer m) := by
  unfold takeHandshake
  simp only []
  split
  · exact .fail rfl
  · refine .bind ((failsWith_onPeers (PeerStore.failsWith_updateIdentity peer _ _ _)).mono fun _ =>
      Error.isHandling_of_isReaching) fun _ => ?_
    split
    · exact (failsWith_handling_send w _ _ _ _).bind fun _ => .pure ()
    · exact .pure ()

theorem failsWith_takePriority (peer : Handle) (m : Message) :
    FailsWith (·.isHandling = true) (takePriority w peer m) := by
  intro d e he
  have hfails := failsWith_handling_send w peer .reply m.conversation (receipt m) d.countPriority
  rcases hrun : (send w peer .reply m.conversation (receipt m)).run d.countPriority with ⟨e' | _, t⟩
  · rw [run_takePriority w hrun] at he
    cases he
    exact hfails e (congrArg Prod.fst hrun)
  · rw [run_takePriority w hrun] at he
    cases he

theorem failsWith_takeOrchestration (peer : Handle) (m : Message) :
    FailsWith (·.isHandling = true) (takeOrchestration w peer m) := by
  unfold takeOrchestration
  split
  · exact .fail rfl
  · split
    · exact FailsWith.get.bind fun d => (failsWith_handling_send w _ _ _ _).bind fun _ => .pure ()
    · split
      · exact .fail rfl
      · refine (failsWith_now _).bind fun now => ?_
        exact (failsWith_onPeers (PeerStore.failsWith_update peer _)).mono fun _ =>
          Error.isHandling_of_isReaching

theorem failsWith_take (peer : Handle) (m : Message) :
    FailsWith (·.isHandling = true) (take w peer m) := by
  have hfiltered {x : Act (Dispatcher W) Unit} {d t : Dispatcher W} {k : Kind} {e : Error}
      (hrun : x.run d = (.error (.filtered k), t)) (he : (x.run d).1 = .error e) :
      e.isHandling = true := by
    rw [hrun] at he
    cases he
    rfl
  unfold take
  cases m.kind with
  | handshake => exact failsWith_takeHandshake w peer m
  | request =>
    intro d e he
    rcases run_takeRequest w peer m d with hrun | ⟨e', queue, -, hrun⟩ | ⟨queue, -, hrun⟩
    · exact hfiltered hrun he
    · rw [hrun] at he
      cases he
      rfl
    · rw [hrun] at he
      cases he
  | reply =>
    intro d e he
    rcases run_takeReply w peer m d with hrun | hrun
    · exact hfiltered hrun he
    · rw [hrun] at he
      exact failsWith_enqueue m _ e he
  | data =>
    intro d e he
    rcases run_takeData w m d with hrun | hrun
    · exact hfiltered hrun he
    · rw [hrun] at he
      exact failsWith_enqueue m _ e he
  | priority => exact failsWith_takePriority w peer m
  | orchestration => exact failsWith_takeOrchestration w peer m
  | qos => exact .pure ()

/-! ## A frame of a stranger -/

/-- What becomes of a sound frame whose sender is at a new address: the peers are held, its names are
taken, there is no room for it, or it is learned and its message handled. -/
inductive Strange (f : Inbound) (a : Address) (m : Message) (d : Dispatcher W) :
    Except Error Unit × Dispatcher W → Prop
  | locked (held : d.peers.held = true) : Strange f a m d (.error (.lockTimeout "peer store"), d)
  | clash (free : d.peers.held = false) (taken : d.peers.Clash a) :
      Strange f a m d (.error (.peerExists (fullName a)), d)
  | full (named : ¬ d.peers.Clash a) (room : ¬ d.peers.Room a) :
      Strange f a m d (.error (.outOfMemory d.peers.capacity), d)
  | learned {p : Peer} (free : d.peers.held = false) (room : d.peers.Room a) (address : p.address = a) :
      Strange f a m d ((take w p.handle { m with media := some f.media, peer := some p.handle }).run
        ((welcomed w m.kind p d).heard f.media p.handle))

theorem strange {f : Inbound} {a : Address} {m : Message} {d : Dispatcher W}
    (hread : Frame.parse? f.bytes = .ok m)
    (hsound : f.checked = true → ∃ c, Frame.verify f.bytes = .ok c) (hsender : f.sender = .address a)
    (hnew : d.peers.ofSender? (.address a) = none) : Strange w f a m d ((route w f).run d) := by
  have hrefused {e : Error}
      (hresolve : (resolveSender w f.sender f.media m.kind).run d = (.error e, d)) :
      (route w f).run d = (.error e, d) := by
    rw [run_route_sound w hread hsound]
    exact run_bind_error hresolve
  cases hheld : d.peers.held with
  | true =>
    have hresolve : (resolveSender w f.sender f.media m.kind).run d =
        (.error (.lockTimeout "peer store"), d) := by
      rw [resolveSender_eq, run_bind, run_findSender?, hheld]
      rfl
    rw [hrefused hresolve]
    exact .locked hheld
  | false =>
    have hresolve : (resolveSender w f.sender f.media m.kind).run d =
        (newcomer w f.media m.kind (.address a)).run d := by
      rw [hsender, resolveSender_eq, run_bind, run_findSender?, hheld, hnew]
      rfl
    have hlearned := learned hheld hnew f.media
    generalize hrun : (learn a f.media).run d = o at hlearned
    cases hlearned with
    | clash htaken =>
      rw [hrefused (hresolve.trans (run_bind_error hrun))]
      exact .clash hheld htaken
    | full hnamed hfull =>
      rw [hrefused (hresolve.trans (run_bind_error hrun))]
      exact .full hnamed fun h => hfull ⟨h.slot, h.handle⟩
    | @added name hroom _ _ =>
      let p := d.peers.newcomer name a f.media
      have hrouted : Routed w f d m p.handle (welcomed w m.kind p d) :=
        ⟨hread, hsound, hresolve.trans (run_newcomer w hrun)⟩
      rw [hrouted.run_route]
      exact .learned hheld hroom rfl

theorem roster_welcomed (kind : Kind) (p : Peer) (d : Dispatcher W) :
    (welcomed w kind p d).peers.roster = (d.joined p).peers.roster := by
  unfold welcomed
  split
  · rfl
  · exact congrArg (fun v => v.2.2.2) ((spared_still p.handle).handshake w (d.joined p))

/-- A stranger whose frame is sound is learned if and only if there is room for it; the names of other
peers make receiving fail if and only if they have both the short and the full name of its address. -/
theorem stranger_learned_iff {f : Inbound} {a : Address} {m : Message} {d : Dispatcher W}
    (hread : Frame.parse? f.bytes = .ok m)
    (hsound : f.checked = true → ∃ c, Frame.verify f.bytes = .ok c) (hsender : f.sender = .address a)
    (hnew : ∀ p ∈ d.peers.peers, p.address ≠ a) :
    let out := (receive w f).run d
    ((∃ p ∈ out.2.peers.peers, p.address = a) ↔ d.peers.held = false ∧ d.peers.Room a) ∧
    ((∃ name, out.1 = .error (.peerExists name)) ↔ d.peers.held = false ∧ d.peers.Clash a) := by
  intro out
  have hstranger : d.peers.ofSender? (.address a) = none := by
    simpa [PeerStore.ofSender?, Sender.isOf, Peer.identity] using hnew
  have hout : out.1 = ((route w f).run d.countReceived).1 := receive_fst w f d
  have hpeers : out.2.peers = ((route w f).run d.countReceived).2.peers :=
    view_receive w (fun _ _ => rfl) f d
  have hstrange := strange w (d := d.countReceived) hread hsound hsender hstranger
  generalize (route w f).run d.countReceived = o at hout hpeers hstrange
  rw [hout, hpeers]
  have hunknown : ¬ ∃ p ∈ d.peers.peers, p.address = a := by
    rintro ⟨p, hp, ha⟩
    exact hnew p hp ha
  cases hstrange with
  | locked hheld =>
    have hnot : ¬ d.peers.held = false := fun h => Bool.noConfusion (hheld.symm.trans h)
    refine ⟨iff_of_false hunknown fun h => hnot h.1, iff_of_false ?_ fun h => hnot h.1⟩
    rintro ⟨name, ⟨⟩⟩
  | clash hfree htaken =>
    exact ⟨iff_of_false hunknown fun h => h.2.not_clash htaken, iff_of_true ⟨_, rfl⟩ ⟨hfree, htaken⟩⟩
  | full hnamed hroom =>
    refine ⟨iff_of_false hunknown fun h => hroom h.2, iff_of_false ?_ fun h => hnamed h.2⟩
    rintro ⟨name, ⟨⟩⟩
  | @learned p hfree hroom haddress =>
    refine ⟨iff_of_true ?_ ⟨hfree, hroom⟩, iff_of_false ?_ fun h => hroom.not_clash h.2⟩
    · -- nothing that happens to the new peer afterwards changes who it is
      have hroster := ((handled_roster p.handle).take (w := w)
        { m with media := some f.media, peer := some p.handle }
        ((welcomed w m.kind p d.countReceived).heard f.media p.handle)).trans
        (((handled_roster p.handle).heard f.media _).trans (roster_welcomed w m.kind p d.countReceived))
      refine (PeerStore.exists_address_of_roster hroster a).2 ⟨p, ?_, haddress⟩
      exact (PeerStore.peers_place (s := d.peers) rfl).symm.subset (.head _)
    · rintro ⟨name, he⟩
      cases (show false = true from failsWith_take w p.handle _ _ _ he)

/-- Two peers have the names that are made from an address. What comes from there is refused, though
there is room for two more; with only the short name taken it is learned under the full one. -/
theorem stranger_refused :
    let w : Wiring Unit := { drivers := [.sink .busCan] }
    let stranger : Address := ⟨2, 0, 0, 0, 0, 9⟩
    let f := { asking with sender := .address stranger }
    let one := ((provision "peer-000009" ⟨2, 0, 0, 0, 0, 2⟩ (.singleton .busCan)).run
      (alone ⟨2, 0, 0, 0, 0, 1⟩ 16 ())).2
    let two := ((provision "peer-020000000009" ⟨2, 0, 0, 0, 0, 3⟩ (.singleton .busCan)).run one).2
    two.peers.peers.length + 2 = two.peers.capacity ∧
      (∃ name, ((receive w f).run two).1 = .error (.peerExists name)) ∧
      (¬ ∃ p ∈ ((receive w f).run two).2.peers.peers, p.address = stranger) ∧
      (¬ ∃ name, ((receive w f).run one).1 = .error (.peerExists name)) ∧
      ∃ p ∈ ((receive w f).run one).2.peers.peers, p.address = stranger := by
  intro w stranger f one two
  have hread : Frame.parse? f.bytes = .ok (Message.outbound .request 5 [0x78, 0x00]) := by
    decide +kernel
  have hsound (_ : f.checked = true) : ∃ c, Frame.verify f.bytes = .ok c :=
    ⟨_, (show Frame.verify f.bytes = .ok 0x0CA4BF5E by decide +kernel)⟩
  have hone : ∀ p ∈ one.peers.peers, p.address ≠ stranger := by decide +kernel
  have htwo : ∀ p ∈ two.peers.peers, p.address ≠ stranger := by decide +kernel
  have hclash : two.peers.Clash stranger := ⟨by decide +kernel, by decide +kernel⟩
  have hroom : one.peers.Room stranger :=
    ⟨by decide +kernel, by decide +kernel, .inr (by decide +kernel)⟩
  obtain ⟨hlearned, hrefused⟩ := stranger_learned_iff w hread hsound rfl htwo
  obtain ⟨hlearned', hrefused'⟩ := stranger_learned_iff w hread hsound rfl hone
  exact ⟨by decide +kernel, hrefused.2 ⟨rfl, hclash⟩, fun h => (hlearned.1 h).2.not_clash hclash,
    fun h => hroom.not_clash (hrefused'.1 h).2, hlearned'.2 ⟨rfl, hroom⟩⟩

end Dispatcher

end Multilink
