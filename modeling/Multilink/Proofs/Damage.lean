import Multilink.Proofs.Receiving
/-!
# Damaged frames

A driver may leave it to the receiver to check a frame. A damaged frame should then cost no more than
a mark against the link of its sender: `Dispatcher.OnlyCharged`. `Dispatcher.onlyCharged_iff` says
when it does. The kind is read before the checksum is looked at, so a frame whose damage hides its
kind is dropped for that, and no link is charged.
-/

namespace Multilink

namespace Dispatcher

open Act

variable {W : Type} (w : Wiring W)

/-- A frame was refused for its checksum, and that is all: it is counted as received and as dropped,
and its sender, if it is known, is charged with one failed receive on the medium. -/
structure OnlyCharged (f : Inbound) (d : Dispatcher W) (r : Except Error Unit) (t : Dispatcher W) :
    Prop where
  refused : ∃ told, Bytes.ofWord32 told = f.bytes.take 4 ∧
    r = .error (.frame (.checksumMismatch told (checksum (f.bytes.drop 4))))
  counted : t.counters =
    { d.counters with received := d.counters.received + 1, dropped := d.counters.dropped + 1 }
  stranger : d.peers.ofSender? f.sender = none → t.peers = d.peers
  charged : ∀ p, d.peers.ofSender? f.sender = some p → ∃ slots,
    PeerStore.ChangedAt p.handle (fun q => some (q.chargeReceive f.media)) d.peers.slots slots ∧
    t.peers = { d.peers with slots }
  conversations : t.conversations = d.conversations
  queue : t.queue = d.queue
  orchestrator : t.orchestrator = d.orchestrator
  world : t.world = d.world

/-- A damaged frame whose kind can be read. -/
theorem receive_damaged {f : Inbound} {m : Message} (hc : f.checked = true)
    (hlen : preambleLength ≤ f.bytes.length)
    (hbad : f.bytes.take 4 ≠ Bytes.ofWord32 (checksum (f.bytes.drop 4)))
    (hm : Frame.parse? f.bytes = .ok m) (d : Dispatcher W) :
    (d.peers.held = true ∧
      (receive w f).run d = (.error (.lockTimeout "peer store"), d.countReceived)) ∨
    (d.peers.held = false ∧
      OnlyCharged f d ((receive w f).run d).1 ((receive w f).run d).2) := by
  obtain ⟨told, htold, hv⟩ := Frame.verify_mismatch hlen hbad
  have hroute := run_route w hm d.countReceived
  rw [if_pos hc] at hroute
  rw [run_receive]
  rcases run_checkIntegrity_damaged hv d.countReceived with
    ⟨hheld, hrun⟩ | ⟨hheld, hnone, hrun⟩ | ⟨hheld, p, slots, hp, hslots, hrun⟩
  · rw [hroute, run_bind_error hrun]
    exact .inl ⟨hheld, rfl⟩
  · rw [hroute, run_bind_error hrun]
    refine .inr ⟨hheld, ⟨told, htold, rfl⟩, rfl, fun _ => rfl, fun q hq => ?_, rfl, rfl, rfl, rfl⟩
    cases hnone.symm.trans hq
  · rw [hroute, run_bind_error hrun]
    refine .inr ⟨hheld, ⟨told, htold, rfl⟩, rfl, fun hn => ?_, fun q hq => ?_, rfl, rfl, rfl, rfl⟩
    · cases hn.symm.trans hp
    · cases hq.symm.trans hp
      exact ⟨slots, hslots, rfl⟩

/-- A frame whose kind is unknown is dropped for that, whatever its checksum, and charged to nobody. -/
theorem receive_unknownKind {f : Inbound} {k : UInt8}
    (hm : Frame.parse? f.bytes = .error (.unknownKind k)) (d : Dispatcher W) :
    (receive w f).run d = (.error (.frame (.unknownKind k)), d.countReceived.countDropped) := by
  rw [run_receive, run_route_unreadable w hm]
  rfl

/-- A damaged frame only charges its sender exactly if the byte of its kind is still one of a kind and
the peers can be looked at. With another byte there it is dropped for its kind; while another activity
holds the peers it is only counted as received. -/
theorem onlyCharged_iff {f : Inbound} (hc : f.checked = true) (hlen : preambleLength ≤ f.bytes.length)
    (hbad : f.bytes.take 4 ≠ Bytes.ofWord32 (checksum (f.bytes.drop 4))) (d : Dispatcher W) :
    (OnlyCharged f d ((receive w f).run d).1 ((receive w f).run d).2 ↔
      (∃ k, f.bytes[4]? = some k ∧ k ≤ 6) ∧ d.peers.held = false) ∧
    (∀ k, f.bytes[4]? = some k → 6 < k →
      (receive w f).run d = (.error (.frame (.unknownKind k)), d.countReceived.countDropped)) ∧
    (∀ k, f.bytes[4]? = some k → k ≤ 6 → d.peers.held = true →
      (receive w f).run d = (.error (.lockTimeout "peer store"), d.countReceived)) := by
  obtain ⟨k, hk⟩ : ∃ k, f.bytes[4]? = some k :=
    ⟨_, List.getElem?_eq_getElem (by simp only [preambleLength] at hlen; omega)⟩
  simp only [hk, Option.some.injEq, exists_eq_left', forall_eq']
  -- the kind is read first, so its byte decides whether the checksum is looked at
  by_cases hkind : 6 < k
  · have hun := receive_unknownKind w
      ((Frame.parse?_eq_error_iff _ _).2 (.inr ⟨hlen, k, hk, hkind, rfl⟩)) d
    refine ⟨⟨fun h => ?_, fun h => ?_⟩, fun _ => hun, fun h => ?_⟩
    · obtain ⟨told, -, he⟩ := h.refused
      rw [hun] at he
      cases he
    · exact absurd hkind (UInt8.not_lt.2 h.1)
    · exact absurd hkind (UInt8.not_lt.2 h)
  · have hle := UInt8.not_lt.1 hkind
    obtain ⟨m, hm⟩ : ∃ m, Frame.parse? f.bytes = .ok m := by
      cases hp : Frame.parse? f.bytes with
      | ok m => exact ⟨m, rfl⟩
      | error e =>
        rcases (Frame.parse?_eq_error_iff _ _).1 hp with ⟨hshort, -⟩ | ⟨-, k', hk', hlt, -⟩
        · exact absurd hshort (Nat.not_lt.2 hlen)
        · rw [hk, Option.some.injEq] at hk'
          exact absurd (hk' ▸ hlt) hkind
    refine ⟨⟨fun h => ⟨hle, ?_⟩, fun h => ?_⟩, fun h => absurd h hkind, fun _ hheld => ?_⟩
    · rcases receive_damaged w hc hlen hbad hm d with ⟨-, hrun⟩ | ⟨hheld, -⟩
      · obtain ⟨told, -, he⟩ := h.refused
        rw [hrun] at he
        cases he
      · exact hheld
    · rcases receive_damaged w hc hlen hbad hm d with ⟨hheld, -⟩ | ⟨-, hout⟩
      · rw [h.2] at hheld
        cases hheld
      · exact hout
    · rcases receive_damaged w hc hlen hbad hm d with ⟨-, hrun⟩ | ⟨hfree, -⟩
      · exact hrun
      · rw [hheld] at hfree
        cases hfree

/-- A request whose checksum was made for the kind 1, and whose kind was damaged on the way. -/
def garbled : Inbound where
  sender := .address ⟨2, 0, 0, 0, 0, 2⟩
  media := .busCan
  bytes := [0x0C, 0xA4, 0xBF, 0x5E, 0x81, 0x00, 0x05, 0x78, 0x00]

theorem garbled_uncharged :
    let d := knowing ⟨2, 0, 0, 0, 0, 1⟩ ⟨2, 0, 0, 0, 0, 2⟩ 0 ()
    let w : Wiring Unit := { drivers := [.sink .busCan] }
    (d.peers.ofSender? garbled.sender).isSome ∧
      ¬ OnlyCharged garbled d ((receive w garbled).run d).1 ((receive w garbled).run d).2 ∧
      (receive w garbled).run d =
        (.error (.frame (.unknownKind 0x81)), d.countReceived.countDropped) := by
  intro d w
  have h := onlyCharged_iff w (f := garbled) rfl (by decide) (by decide +kernel) d
  refine ⟨by decide, fun hc => ?_, h.2.1 0x81 rfl (by decide)⟩
  obtain ⟨⟨k, hk, hle⟩, -⟩ := h.1.1 hc
  cases hk
  exact absurd hle (by decide)

end Dispatcher

end Multilink
