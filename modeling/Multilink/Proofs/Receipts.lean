import Multilink.Proofs.Delivery
import Multilink.Proofs.Intake
import Multilink.Proofs.Payloads
/-!
# Receipts

A priority message is receipted with a reply whose only field are the four bytes of its checksum. A
field ends at the first null byte, and a checksum may have one: then only the bytes before it are
read back (`Dispatcher.receipt_readable_iff`).
-/

namespace Multilink

namespace Frame

theorem take_of_read {bs : Bytes} {m : Message} (h : parse? bs = .ok m) :
    bs.take 4 = Bytes.ofWord32 m.checksum := by
  unfold parse? at h
  split at h
  · split at h
    · cases h
    · cases h
      exact (Bytes.ofWord32_word32 ..).symm
  · cases h

/-- The first field that is read is the first one that was written, up to its first null byte. -/
theorem field?_zero_of_build {kind : Kind} {v : UInt16} {bs : Bytes} {rest : List Bytes}
    {m : Message} (h : parse? (build kind v (Fields.join (bs :: rest))) = .ok m) :
    m.field? 0 = some (bs.takeWhile (· != Fields.terminator)) := by
  rw [parse?_build] at h
  cases h
  rw [Message.field?, Message.fields, Fields.terminate_join, Fields.head?_split, Fields.join_cons,
    Fields.takeWhile_append]

end Frame

variable {V : Type}

/-- The call is to carry a message of this kind. -/
def Attempt.isOf (kind : Kind) (c : Attempt V) : Bool :=
  match Frame.parse? c.bytes with
  | .ok m => m.kind == kind
  | .error _ => false

theorem Attempt.isOf_of_build {kind kind' : Kind} {v : UInt16} {payload : Bytes} {c : Attempt V}
    (h : c.bytes = Frame.build kind v payload) : c.isOf kind' = (kind == kind') := by
  rw [isOf, h, Frame.parse?_build]
  rfl

/-- The calls that are to carry a reply. -/
def replies (calls : List (Attempt V)) : List (Attempt V) :=
  calls.filter (·.isOf .reply)

namespace Dispatcher

open Act

variable {w : Wiring V} {f : Inbound} {m : Message} {d : Dispatcher V}

theorem handled_calls (w : Wiring V) (m : Message) (d : Dispatcher (Watched V)) :
    (handled w.watched m d).world.calls = d.world.calls := by
  unfold handled
  rw [show w.watched.onPriority = w.onPriority.map fun handle m a =>
    { a with links := handle m a.links } from rfl]
  cases w.onPriority <;> rfl

/-- A priority message makes its receiver send a greeting at most, and the receipt. -/
theorem calls_of_priority (hm : Frame.parse? f.bytes = .ok m) (hk : m.kind = .priority) :
    ∀ c ∈ ((receive w.watched f).run d.watched).2.world.calls,
      c.bytes = Frame.build .handshake 0 (w.helloPayload hello) ∨
        c.bytes = Frame.build .reply m.conversation (receipt m) := by
  let fit (bytes : Bytes) : Prop := bytes = Frame.build .handshake 0 (w.helloPayload hello) ∨
    bytes = Frame.build .reply m.conversation (receipt m)
  have hgreeting : fit (Frame.build .handshake 0 (w.watched.helloPayload hello)) :=
    .inl (by rw [Wiring.watched_helloPayload])
  have htake (m' : Message) (peer : Handle) (hm' : Frame.parse? f.bytes = .ok m') :
      Posts w peer fit 1
        (take w.watched peer { m' with media := some f.media, peer := some peer }) := by
    cases hm.symm.trans hm'
    unfold take
    simp only [hk]
    exact posts_takePriority peer (.inr rfl)
  have hmails := receive_mails_of w f d.watched (fun _ _ _ => hgreeting) htake
  exact fun c hc => (hmails.each c hc).1

/-- A known sender that has just been heard gets at once what is sent to it, if its links work. -/
theorem run_send_heard {p : Peer} (hw : w.check = .ok ()) {a : Address} {capacity : Nat}
    (hpeers : PeerStore.WellFormed a capacity d.peers.peers) (free : d.peers.held = false)
    (hp : d.peers.ofSender? f.sender = some p) {s : Dispatcher (Watched V)}
    (hs : s.peers = (d.watched.heard f.media p.handle).peers) {kind : Kind} {v : UInt16}
    {payload : Bytes}
    (hlinks : w.Reaches p.media p.address (Frame.build kind v payload) s.world.links) :
    ∃ sent t c, (send w.watched p.handle kind v payload).run s = (sent, t) ∧
      t.world.calls = s.world.calls ++ [c] ∧ c.ok = true ∧ c.target = p.address ∧
      c.bytes = Frame.build kind v payload := by
  have hmem := List.mem_of_find?_eq_some hp
  obtain ⟨before, after, hseat⟩ := hpeers.exists_seat free hmem
  let q := p.updateStats f.media (·.recordReceive true)
  have hheard : s.peers = d.peers.seating before after q := by
    rw [hs, heard_seat (d := d.watched) hseat]
    rfl
  have hseat' : s.peers.Seat p.handle before after q := hheard ▸ hseat.replace rfl
  obtain ⟨sent, q', u, cs, hrun, hdelivery⟩ := run_send_seat w hseat' kind v payload
  obtain ⟨n, hn⟩ := attempts_of_check hw
  have hmeasured : q.Measured := (p.kept_updateStats _ _).measured (hpeers.measured p hmem)
  obtain ⟨c, rfl, hok⟩ := hdelivery.reaching (by omega) hmeasured hlinks
  obtain ⟨htarget, hbytes⟩ := hdelivery.proper.same c (.head _)
  exact ⟨sent, _, c, hrun, rfl, hok, htarget, hbytes⟩

/-- If its links work, the sender gets the receipt at once. -/
theorem receipt_of_reaching {p : Peer} (hw : w.check = .ok ()) (hm : Frame.parse? f.bytes = .ok m)
    (hk : m.kind = .priority) (hsound : f.checked = true → ∃ c, Frame.verify f.bytes = .ok c)
    {a : Address} {capacity : Nat} (hpeers : PeerStore.WellFormed a capacity d.peers.peers)
    (free : d.peers.held = false) (hp : d.peers.ofSender? f.sender = some p)
    (hlinks : w.Reaches p.media p.address (Frame.build .reply m.conversation (receipt m)) d.world) :
    ∃ c, ((receive w.watched f).run d.watched).2.world.calls = [c] ∧ c.ok = true ∧
      c.target = p.address ∧ c.bytes = Frame.build .reply m.conversation (receipt m) := by
  let s := d.watched.countReceived
  have hrouted : Routed w.watched f s m p.handle s :=
    ⟨hm, hsound, run_resolveSender_free w.watched (d := s) free hp f.media m.kind⟩
  obtain ⟨sent, u, hsend, -, hreceive⟩ := hrouted.receipted hk
  obtain ⟨sent', t, c, hrun, hcalls, hc⟩ := run_send_heard hw hpeers free hp
    (s := (s.heard f.media p.handle).countPriority) rfl hlinks
  cases hsend.symm.trans hrun
  refine ⟨c, ?_, hc⟩
  rw [hreceive, handled_calls, hcalls]
  rfl

/-- Every reply that a priority message makes its receiver send is read with the conversation of the
message. Its first field are the first four bytes of the message, its checksum, exactly if none of
them is null, and else the bytes before the first null one. A known sender whose links work gets one
reply. -/
theorem receipt_readable_iff {self : Address} {capacity : Nat}
    {tr : List (PeerStore.Call × Except Error PeerStore.Answer)} (hw : w.check = .ok ())
    (hd : Trace PeerStore.Step (.new self capacity) tr d.peers)
    (hm : Frame.parse? f.bytes = .ok m) (hk : m.kind = .priority)
    (hsound : f.checked = true → ∃ c, Frame.verify f.bytes = .ok c) :
    let calls := ((receive w.watched f).run d.watched).2.world.calls
    (∀ c ∈ replies calls, ∃ r, Frame.parse? c.bytes = .ok r ∧ r.conversation = m.conversation ∧
      (r.field? 0 = some (f.bytes.take 4) ↔ 0 ∉ f.bytes.take 4) ∧
      r.field? 0 = some ((f.bytes.take 4).takeWhile (· != 0))) ∧
    ∀ p, d.peers.held = false → d.peers.ofSender? f.sender = some p →
      w.Reaches p.media p.address (Frame.build .reply m.conversation (receipt m)) d.world →
      ∃ c, replies calls = [c] ∧ c.ok = true ∧ c.target = p.address := by
  intro calls
  constructor
  · intro c hc
    obtain ⟨hc, hreply⟩ := List.mem_filter.1 hc
    have hbytes : c.bytes = Frame.build .reply m.conversation (receipt m) := by
      rcases calls_of_priority hm hk c hc with h | h
      · rw [Attempt.isOf_of_build h] at hreply
        cases hreply
      · exact h
    obtain ⟨r, -, hr, -, -, hconversation⟩ := Frame.reads_of_build hbytes
    have hfield : r.field? 0 = some ((f.bytes.take 4).takeWhile (· != 0)) := by
      rw [Frame.take_of_read hm]
      exact Frame.field?_zero_of_build (hbytes ▸ hr)
    refine ⟨r, hr, hconversation, ?_, hfield⟩
    rw [hfield, Option.some.injEq]
    exact Fields.takeWhile_eq_self_iff _
  · intro p free hp hlinks
    obtain ⟨c, hcalls, hok, htarget, hbytes⟩ :=
      receipt_of_reaching hw hm hk hsound (PeerStore.Inv.trace hd).wellFormed free hp hlinks
    refine ⟨c, ?_, hok, htarget⟩
    rw [show calls = [c] from hcalls, replies, List.filter_cons, Attempt.isOf_of_build hbytes]
    rfl

/-- A message whose checksum has a null byte. Two of its four bytes are read back. -/
theorem cut_receipt :
    let w : Wiring Unit := { drivers := [.sink .busCan] }
    let d := knowing ⟨2, 0, 0, 0, 0, 1⟩ ⟨2, 0, 0, 0, 0, 2⟩ 1 ()
    let urgent := { asking with bytes := [0x1B, 0x09, 0x00, 0x33, 0x04, 0x00, 0x48, 0x78, 0x00] }
    ∃ c r, replies ((receive w.watched urgent).run d.watched).2.world.calls = [c] ∧ c.ok = true ∧
      Frame.parse? c.bytes = .ok r ∧ r.conversation = 72 ∧ r.field? 0 = some [0x1B, 0x09] := by
  intro w d urgent
  have hread : Frame.parse? urgent.bytes =
      .ok (Message.outbound .priority 72 [0x78, 0x00]) := by decide +kernel
  have hsound : ∃ c, Frame.verify urgent.bytes = .ok c := ⟨0x1B090033, by decide +kernel⟩
  have hadded : PeerStore.Step (.new ⟨2, 0, 0, 0, 0, 1⟩ 1)
      ⟨.add "peer" ⟨2, 0, 0, 0, 0, 2⟩ (.singleton .busCan), false⟩ (.ok (.added ⟨1⟩)) d.peers := rfl
  obtain ⟨hreplies, hreached⟩ :=
    receipt_readable_iff (w := w) rfl (.snoc .nil hadded) hread rfl fun _ => hsound
  obtain ⟨c, hcalls, hok, -⟩ :=
    hreached _ rfl rfl (Wiring.reaches_sink rfl rfl (by decide) _ _)
  obtain ⟨r, hr, hconversation, -, hfield⟩ := hreplies c (by rw [hcalls]; exact .head _)
  exact ⟨c, r, hcalls, hok, hr, hconversation, hfield⟩

end Dispatcher

end Multilink
