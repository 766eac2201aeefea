import Multilink.Proofs.Construction
import Multilink.Proofs.Delivery
import Multilink.Proofs.Intake
import Multilink.Proofs.Newcomers
/-!
# Introductions

A handshake tells who its sender is: four fields with a tag, the name, the media and the version of
the sender. The receiver writes them to its record of the sender, which it makes if the sender is
new and there is room, and answers a greeting.

A null byte ends a field, and the name of a node may have one. `Dispatcher.introduced_iff` says that
the record of a name that is new is right afterwards exactly if the name has none.
-/

namespace Multilink

/-! ## The payload of a handshake -/

namespace MediaSet

theorem ofBits_insert {s : MediaSet} (hs : ofBits s.bits = s) (m : Media) :
    ofBits (s.insert m).bits = s.insert m := by
  have hs : s.bits.toBitVec &&& 0x7F#8 = s.bits.toBitVec :=
    congrArg (fun s : MediaSet => s.bits.toBitVec) hs
  have hm : m.bit.toBitVec &&& 0x7F#8 = m.bit.toBitVec := by cases m <;> rfl
  have hboth : (s.bits.toBitVec ||| m.bit.toBitVec) &&& 0x7F#8 =
      s.bits.toBitVec ||| m.bit.toBitVec := by
    rw [BitVec.and_comm, BitVec.and_or_distrib_left, BitVec.and_comm, hs, BitVec.and_comm, hm]
  exact congrArg (fun b => MediaSet.mk ⟨b⟩) hboth

/-- No set of media has the eighth bit. -/
theorem ofBits_ofList (ms : List Media) : ofBits (ofList ms).bits = ofList ms := by
  have hkept (s : MediaSet) (hs : ofBits s.bits = s) :
      ofBits (ms.foldl insert s).bits = ms.foldl insert s := by
    induction ms generalizing s with
    | nil => exact hs
    | cons m rest ih => exact ih _ (ofBits_insert hs m)
  exact hkept _ rfl

theorem isEmpty_insert (s : MediaSet) (m : Media) : (s.insert m).isEmpty = false := by
  have hmem : (s.insert m).contains m = true := by simp
  refine Bool.eq_false_iff.2 fun hempty => ?_
  rw [isEmpty, beq_iff_eq] at hempty
  simp [contains, hempty] at hmem

end MediaSet

namespace Message

variable {U : Type} {w : Wiring U} {m : Message} {tag : String}

/-- What a node without a null character in its name writes is read back. -/
theorem fields_of_hello (hm : m.payload = w.helloPayload tag) (htag : '\x00' ∉ tag.toList)
    (hname : '\x00' ∉ w.name.toList) :
    m.fields = [Fields.text tag, Fields.text w.name, Fields.number w.media.bits.toNat,
      Fields.text w.version.text, []] := by
  rw [fields, hm]
  refine Fields.split_join fun bs hbs => ?_
  simp only [List.mem_cons, List.not_mem_nil, or_false] at hbs
  rcases hbs with rfl | rfl | rfl | rfl
  · exact mt (Bytes.zero_mem_ofText _).1 htag
  · exact mt (Bytes.zero_mem_ofText _).1 hname
  · exact Numeral.terminator_notMem_number _
  · exact Version.terminator_notMem_text _

/-- Of a name with a null character the part before it is read back. -/
theorem field?_of_hello (hm : m.payload = w.helloPayload tag) (htag : '\x00' ∉ tag.toList) :
    m.field? 0 = some (Fields.text tag) ∧
      m.field? 1 = some ((Fields.text w.name).takeWhile (· != Fields.terminator)) := by
  have hzero : Fields.terminator ∉ Fields.text tag := mt (Bytes.zero_mem_ofText _).1 htag
  rw [field?, field?, fields, hm, Wiring.helloPayload, Fields.join_cons, Fields.split_append hzero]
  refine ⟨rfl, ?_⟩
  rw [List.getElem?_cons_succ, Fields.head?_split, Fields.join_cons, Fields.takeWhile_append]

theorem tag_of_hello (hm : m.payload = w.helloPayload tag) (htag : '\x00' ∉ tag.toList) :
    m.fieldText? 0 = some tag := by
  rw [fieldText?, (field?_of_hello hm htag).1, Option.bind_some, Fields.text, Bytes.text?_ofText]

theorem name_of_hello_iff (hm : m.payload = w.helloPayload tag) (htag : '\x00' ∉ tag.toList) :
    m.fieldText? 1 = some w.name ↔ '\x00' ∉ w.name.toList := by
  have htake : m.fieldText? 1 =
      Bytes.text? ((Bytes.ofText w.name).takeWhile (· != Fields.terminator)) := by
    rw [fieldText?, (field?_of_hello hm htag).2, Option.bind_some, Fields.text]
  have hwhole : (Bytes.ofText w.name).takeWhile (· != Fields.terminator) = Bytes.ofText w.name ↔
      '\x00' ∉ w.name.toList := by
    rw [Fields.takeWhile_eq_self_iff]
    exact not_congr (Bytes.zero_mem_ofText _)
  rw [htake, ← hwhole]
  constructor
  · exact fun h => (Bytes.ofText_of_text? h).symm
  · intro h
    rw [h, Bytes.text?_ofText]

/-- What a handshake tells about the media and the version of its sender. -/
theorem told_of_hello (hm : m.payload = w.helloPayload tag) (htag : '\x00' ∉ tag.toList)
    (hname : '\x00' ∉ w.name.toList) {a : Media} (ha : m.media = some a) :
    Dispatcher.announcedMedia m = w.media.insert a ∧
      ((m.fieldText? 3).bind Version.read?).getD {} = w.version := by
  have hmedia : m.fieldText? 2 = some (Numeral.decimal w.media.bits.toNat) := by
    rw [fieldText?, field?, fields_of_hello hm htag hname]
    exact Bytes.text?_ofText _
  have hversion : m.fieldText? 3 = some w.version.text := by
    rw [fieldText?, field?, fields_of_hello hm htag hname]
    exact Bytes.text?_ofText _
  rw [Dispatcher.announcedMedia, hmedia, hversion, ha]
  simp [Numeral.readByte?_decimal, Version.read?_text, Wiring.media, MediaSet.ofBits_ofList]

end Message

/-! ## The record of a peer -/

namespace PeerStore

variable {U : Type} {w : Wiring U} {s : PeerStore} {p : Peer} {m : Message} {a : Media}

/-- The record of a peer that has told in a handshake who it is. -/
def introduced (s : PeerStore) (m : Message) (p : Peer) : Peer :=
  introduce (s.nameFor? p.handle ((m.fieldText? 1).filter (· ≠ ""))) (Dispatcher.announcedMedia m)
    (((m.fieldText? 3).bind Version.read?).getD {}) p

/-- The record of a peer says what a node of this wiring tells in a handshake on a medium. It has
another name only if the store has another peer of this name. -/
structure Introduced (s : PeerStore) (w : Wiring U) (m : Media) (p : Peer) : Prop where
  name : p.name = w.name ∨ ∃ q ∈ s.peers, q.handle ≠ p.handle ∧ q.name = w.name
  media : p.media = w.media.insert m
  version : p.version = w.version
  trust : p.trust ≠ .unknown

theorem identity_introduced (s : PeerStore) (m : Message) (p : Peer) :
    (s.introduced m p).identity = p.identity :=
  identity_introduce ..

theorem announced_isEmpty (ha : m.media = some a) :
    (Dispatcher.announcedMedia m).isEmpty = false := by
  rw [Dispatcher.announcedMedia, ha]
  exact MediaSet.isEmpty_insert _ a

theorem introduced_eq (ha : m.media = some a) (s : PeerStore) (p : Peer) :
    ∃ stats, s.introduced m p =
      { p with
        name := (s.nameFor? p.handle ((m.fieldText? 1).filter (· ≠ ""))).getD p.name
        media := Dispatcher.announcedMedia m
        version := ((m.fieldText? 3).bind Version.read?).getD {}
        trust := if p.trust = .unknown then .knownInsecure else p.trust
        stats } := by
  rw [introduced, introduce]
  simp only [announced_isEmpty ha]
  exact ⟨_, rfl⟩

theorem measured_introduced (ha : m.media = some a) (s : PeerStore) (p : Peer) :
    (s.introduced m p).Measured := by
  rw [introduced, introduce]
  simp only [announced_isEmpty ha]
  exact Peer.measured_setMedia _ _

/-- The record of the sender is right, if its name is a name and has no null character. -/
theorem introduced_of_hello {tag : String} (hm : m.payload = w.helloPayload tag)
    (htag : '\x00' ∉ tag.toList) (ha : m.media = some a) (hnamed : nameFault? w.name = none)
    (hname : '\x00' ∉ w.name.toList) (s : PeerStore) (p : Peer) :
    s.Introduced w a (s.introduced m p) := by
  obtain ⟨stats, hrecord⟩ := introduced_eq ha s p
  obtain ⟨hmedia, hversion⟩ := Message.told_of_hello hm htag hname ha
  rw [hrecord, hmedia, hversion, (Message.name_of_hello_iff hm htag).2 hname]
  refine ⟨?_, rfl, rfl, ?_⟩
  · have hne : w.name ≠ "" := fun hempty => by simp [nameFault?, hempty] at hnamed
    by_cases hother : ∃ q ∈ s.peers, q.handle ≠ p.handle ∧ q.name = w.name
    · exact .inr hother
    · have hfree : (s.peers.any fun q => q.handle != p.handle && q.name == w.name) = false := by
        simpa using hother
      left
      simp [nameFor?, Option.filter, hne, hnamed, hfree]
  · show (if p.trust = .unknown then Trust.knownInsecure else p.trust) ≠ .unknown
    split
    · decide
    · assumption

/-- Else it does not get this name. -/
theorem name_introduced {tag : String} (hm : m.payload = w.helloPayload tag)
    (htag : '\x00' ∉ tag.toList) (ha : m.media = some a) (hname : '\x00' ∈ w.name.toList)
    (h : (s.introduced m p).name = w.name) : p.name = w.name := by
  obtain ⟨stats, hrecord⟩ := introduced_eq ha s p
  rw [hrecord] at h
  change (s.nameFor? p.handle ((m.fieldText? 1).filter (· ≠ ""))).getD p.name = w.name at h
  cases hn : s.nameFor? p.handle ((m.fieldText? 1).filter (· ≠ "")) with
  | none => rwa [hn] at h
  | some n =>
    rw [hn] at h
    cases h
    obtain ⟨htold, -⟩ := Option.filter_eq_some_iff.1 hn
    obtain ⟨htold, -⟩ := Option.filter_eq_some_iff.1 htold
    exact absurd hname ((Message.name_of_hello_iff hm htag).1 htold)

/-- Which other peers there are is all that matters of the store, and the statistics of the record
do not matter. -/
theorem Introduced.of_recounted {t : PeerStore} {q : Peer} (h : s.Introduced w a p)
    (hq : p.Recounted q) (hothers : ∀ r, r.handle ≠ p.handle → r ∈ s.peers → r ∈ t.peers) :
    t.Introduced w a q := by
  obtain ⟨stats, rfl⟩ := hq.rest
  refine ⟨h.name.imp_right ?_, h.media, h.version, h.trust⟩
  rintro ⟨r, hr, hne, hname⟩
  exact ⟨r, hothers r hne hr, hne, hname⟩

end PeerStore

/-! ## Handshakes -/

/-- A node of this wiring has these settings, and they are accepted. -/
structure Settings.Builds {U : Type} (s : Settings) (w : Wiring U) : Prop where
  accepted : s.check = .ok ()
  name : w.name = s.node.name
  attempts : w.attempts = s.messaging.sendAttempts

namespace Settings.Builds

variable {U : Type} {s : Settings} {w : Wiring U}

theorem named (h : s.Builds w) : PeerStore.nameFault? w.name = none := by
  have hfits := (check_eq_ok_iff.1 h.accepted).1
  rw [nameFits, Bool.and_eq_true, decide_eq_true_eq, decide_eq_true_eq] at hfits
  exact (PeerStore.nameFault?_eq_none_iff _).2 (h.name ▸ hfits)

theorem attempts_ne_zero (h : s.Builds w) : w.attempts ≠ 0 := by
  rw [h.attempts]
  exact sendAttempts_ne_zero h.accepted

end Settings.Builds

namespace Dispatcher

open Act

variable {U V : Type} {w : Wiring V} {peer : Handle} {before after : List (Option Peer)} {p : Peer}
variable {d : Dispatcher (Watched V)} {m : Message} {tag : String}

/-- A handshake is written to the record of its sender. -/
theorem run_takeHandshake_seat (hs : d.peers.Seat peer before after p)
    (hm : m.fieldText? 0 = some tag) (htag : tag = hello ∨ tag = helloAnswer) :
    (takeHandshake w.watched peer m).run d =
      (if tag = hello then do
          let _ ← send w.watched peer .handshake m.conversation (w.helloPayload helloAnswer)
        else pure ()).run (d.seated before after (d.peers.introduced m p)) := by
  have hidentity : (PeerStore.updateIdentity peer ((m.fieldText? 1).filter (· ≠ ""))
      (announcedMedia m) (((m.fieldText? 3).bind Version.read?).getD {})).run d.peers =
      (.ok (), d.peers.seating before after (d.peers.introduced m p)) := by
    have hupdate := hs.update (PeerStore.introduce
      (d.peers.nameFor? peer ((m.fieldText? 1).filter (· ≠ ""))) (announcedMedia m)
      (((m.fieldText? 3).bind Version.read?).getD {}))
    rw [PeerStore.introduced, hs.handle]
    exact hupdate
  have hknown : ¬ (m.fieldText? 0 ≠ some hello ∧ m.fieldText? 0 ≠ some helloAnswer) := by
    rw [hm]
    rcases htag with rfl | rfl
    · simp
    · simp
  have hgreeting : m.fieldText? 0 = some hello ↔ tag = hello := by rw [hm, Option.some.injEq]
  unfold takeHandshake
  simp only [hknown, if_false, hgreeting]
  rw [run_bind_ok (run_onPeers hidentity), Wiring.watched_helloPayload]
  rfl

/-- What taking a handshake in comes to: the record of its sender, with its statistics since, and
the calls to carry the answer, if it is a greeting. -/
theorem run_takeHandshake_answer (hs : d.peers.Seat peer before after p)
    (hm : m.fieldText? 0 = some tag) (htag : tag = hello ∨ tag = helloAnswer) :
    ∃ r q u cs, (takeHandshake w.watched peer m).run d = (r, d.tried before after q u cs) ∧
      (d.peers.introduced m p).Recounted q ∧
      (tag = helloAnswer → r = .ok () ∧ cs = []) ∧
      (tag = hello → ∃ sent, r = sent.map (fun _ => ()) ∧
        Delivery w (d.peers.introduced m p)
          (Frame.build .handshake m.conversation (w.helloPayload helloAnswer)) d.world.links
          sent q cs) := by
  have hdiffer : hello ≠ helloAnswer := by decide
  have hkept := d.peers.identity_introduced m p
  rw [run_takeHandshake_seat hs hm htag]
  rcases htag with rfl | rfl
  · have hseat : (d.seated before after (d.peers.introduced m p)).peers.Seat peer before after
        (d.peers.introduced m p) := hs.replace (congrArg Identity.handle hkept)
    obtain ⟨sent, q, u, cs, hrun, hdelivery⟩ :=
      run_send_seat w hseat .handshake m.conversation (w.helloPayload helloAnswer)
    refine ⟨_, q, u, cs, ?_, hdelivery.peer, fun h => absurd h hdiffer,
      fun _ => ⟨sent, rfl, hdelivery⟩⟩
    rw [if_pos rfl, run_bind, hrun]
    cases sent <;> rfl
  · rw [if_neg hdiffer.symm, seated_eq_tried]
    exact ⟨_, _, _, _, rfl, .refl _, fun _ => ⟨rfl, rfl⟩, fun h => absurd h hdiffer.symm⟩

/-- The message in a handshake, once it is attributed to a peer. -/
def handshakeOf (v : UInt16) (payload : Bytes) (a : Media) (peer : Handle) : Message :=
  { Message.outbound .handshake v payload with media := some a, peer := some peer }

/-- A handshake whose sender can be taken in is handled as a message of this sender. -/
theorem run_route_handshake {f : Inbound} {v : UInt16} {fields : List Bytes} {a : Address}
    {capacity : Nat} {given taken : List Handle} (hi : PeerStore.Inv a capacity given taken d.peers)
    (hf : f.bytes = Frame.build .handshake v (Fields.join fields)) :
    (¬ d.peers.Takes f.sender ∧ ∃ e, (route w.watched f).run d = (.error e, d)) ∨
    (d.peers.Takes f.sender ∧ ∃ p t, Recorded f.sender d p t ∧
      (route w.watched f).run d = (takeHandshake w.watched p.handle
        (handshakeOf v (Fields.join fields) f.media p.handle)).run t) := by
  have hread : Frame.parse? f.bytes = .ok (.outbound .handshake v (Fields.join fields)) := by
    rw [hf, Frame.parse?_build, Fields.terminate_join]
    rfl
  have hsound : f.checked = true → ∃ c, Frame.verify f.bytes = .ok c := fun _ =>
    ⟨_, hf ▸ Frame.verify_build _ _ _⟩
  rcases run_resolveSender_handshake w.watched hi f.sender f.media with
    ⟨hno, e, hrun⟩ | ⟨htakes, p, t, hp, hrun⟩
  · refine .inl ⟨hno, e, ?_⟩
    rw [run_route_sound w.watched hread hsound]
    exact run_bind_error hrun
  · have hrouted : Routed w.watched f d (.outbound .handshake v (Fields.join fields)) p.handle t :=
      ⟨hread, hsound, hrun⟩
    exact .inr ⟨htakes, _, _, hp.heard f.media, hrouted.run_route⟩

/-- The record of the sender is right after a handshake if the name of the node has no null
character, and only then unless somebody had this name before. -/
theorem Recorded.introduced {W : Type} {d t : Dispatcher W} {ws : Wiring U} {sender : Sender}
    {a : Media} {q : Peer} (hp : Recorded sender d p t) (hm : m.payload = ws.helloPayload tag)
    (htag : '\x00' ∉ tag.toList) (ha : m.media = some a)
    (hnamed : PeerStore.nameFault? ws.name = none) (hq : (t.peers.introduced m p).Recounted q) :
    ('\x00' ∉ ws.name.toList → d.peers.Introduced ws a q) ∧
    ((∀ r ∈ d.peers.peers, r.name ≠ ws.name) → d.peers.Introduced ws a q →
      '\x00' ∉ ws.name.toList) := by
  have hhandle : (t.peers.introduced m p).handle = p.handle :=
    congrArg Identity.handle (t.peers.identity_introduced m p)
  constructor
  · intro hname
    have hright := PeerStore.introduced_of_hello hm htag ha hnamed hname t.peers p
    exact hright.of_recounted hq fun r hr => (hp.others r (hhandle ▸ hr)).1
  · intro hnew hright hname
    obtain ⟨stats, rfl⟩ := hq.rest
    have hgot : (t.peers.introduced m p).name = ws.name :=
      hright.name.resolve_right fun ⟨r, hr, _, h⟩ => hnew r hr h
    -- then it had the name before, but its name was not new or was made from an address
    have hhad := PeerStore.name_introduced hm htag ha hname hgot
    rcases hp.named with ⟨r, hr, h⟩ | h
    · exact hnew r hr (h.trans hhad)
    · exact h (hhad ▸ hname)

/-- A handshake of a node with accepted settings, be it a greeting or the answer to one, is refused
if its sender is new and there is no room for it. Else the record of the sender is right afterwards
if the name of the node has no null character, and only then unless somebody had this name before. A
greeting is answered on its conversation with one frame, if the links to its sender work, and an
answer is not answered. -/
theorem introduced_iff {s r : Settings} {ws : Wiring U} {wr : Wiring V} {d : Dispatcher V}
    {f : Inbound} {v : UInt16} {self : Address} {capacity : Nat}
    {tr : List (PeerStore.Call × Except Error PeerStore.Answer)}
    (hs : s.Builds ws) (hr : r.Builds wr)
    (hd : Trace PeerStore.Step (.new self capacity) tr d.peers)
    (htag : tag = hello ∨ tag = helloAnswer)
    (hf : f.bytes = Frame.build .handshake v (ws.helloPayload tag)) :
    let o := (receive wr.watched f).run d.watched
    let answer := Frame.build .handshake v (wr.helloPayload helloAnswer)
    (¬ d.peers.Takes f.sender →
      (∃ e, o.1 = .error e) ∧ o.2.peers = d.peers ∧ o.2.world.calls = []) ∧
    (d.peers.Takes f.sender → ∃ p, o.2.peers.ofSender? f.sender = some p ∧
      ('\x00' ∉ ws.name.toList → d.peers.Introduced ws f.media p) ∧
      ((∀ q ∈ d.peers.peers, q.name ≠ ws.name) → d.peers.Introduced ws f.media p →
        '\x00' ∉ ws.name.toList) ∧
      (tag = helloAnswer → o.1 = .ok () ∧ o.2.world.calls = []) ∧
      (tag = hello →
        Post.Proper wr.attempts ⟨p.address, answer, o.2.world.calls⟩ ∧
        (o.1 = .ok () ↔ ∃ c ∈ o.2.world.calls, c.ok = true) ∧
        (wr.Reaches p.media p.address answer d.world →
          ∃ c, o.2.world.calls = [c] ∧ c.ok = true))) := by
  intro o answer
  have hzero : '\x00' ∉ tag.toList := by rcases htag with rfl | rfl <;> decide
  have hi : PeerStore.Inv _ _ _ _ d.watched.countReceived.peers := PeerStore.Inv.trace hd
  have hout : o.1 = ((route wr.watched f).run d.watched.countReceived).1 :=
    receive_fst wr.watched f d.watched
  let view (d : Dispatcher (Watched V)) := (d.peers, d.world.calls)
  have hview : view o.2 = view ((route wr.watched f).run d.watched.countReceived).2 :=
    view_receive wr.watched (fun _ _ => rfl) f d.watched
  obtain ⟨hpeers, hcalls⟩ := Prod.mk.inj hview
  rcases run_route_handshake (w := wr) hi hf with ⟨hno, e, hrun⟩ | ⟨htakes, p, t, hp, hrun⟩
  · rw [hrun] at hout hpeers hcalls
    exact ⟨fun _ => ⟨⟨e, hout⟩, hpeers, hcalls⟩, fun htakes => absurd htakes hno⟩
  · refine ⟨fun hno => absurd htakes hno, fun _ => ?_⟩
    obtain ⟨before, after, hseat⟩ := hp.seat
    let m := handshakeOf v (ws.helloPayload tag) f.media p.handle
    obtain ⟨result, q, u, cs, htake, hq, hsilent, hanswer⟩ :=
      run_takeHandshake_answer (w := wr) (m := m) hseat (Message.tag_of_hello rfl hzero) htag
    rw [hrun.trans htake] at hout hpeers hcalls
    have hidentity : q.identity = p.identity := hq.identity.trans (t.peers.identity_introduced m p)
    replace hout : o.1 = result := hout
    replace hcalls : o.2.world.calls = cs := by
      rw [hcalls, tried, hp.world]
      rfl
    obtain ⟨hright, honly⟩ := hp.introduced (m := m) rfl hzero rfl hs.named hq
    refine ⟨q, ?_, hright, honly, fun h => ?_, fun h => ?_⟩
    · rw [hpeers]
      exact hseat.ofSender? hp.sender hidentity
    · obtain ⟨rfl, rfl⟩ := hsilent h
      exact ⟨hout, hcalls⟩
    · obtain ⟨sent, rfl, hsent⟩ := hanswer h
      obtain ⟨stats, rfl⟩ := hq.rest
      rw [hcalls, hout]
      refine ⟨hsent.proper, ?_, fun hlinks => ?_⟩
      · rw [← hsent.isOk]
        cases sent <;> simp [Except.map]
      · refine hsent.reaching hr.attempts_ne_zero (PeerStore.measured_introduced rfl t.peers p) ?_
        rw [hp.world]
        exact hlinks

/-- Two names that settings may have, of which the one with a null character does not arrive. -/
theorem introduced_and_cut :
    let r : Wiring Unit := ({} : Settings).wiring [.sink .busCan]
    let w (name : String) : Wiring Unit :=
      ({ node := { name } } : Settings).wiring [.sink .busTtl]
    let d := knowing ⟨2, 0, 0, 0, 0, 1⟩ ⟨2, 0, 0, 0, 0, 2⟩ 1 ()
    let greeting (name : String) : Inbound :=
      { asking with bytes := Frame.build .handshake 5 ((w name).helloPayload hello) }
    let o (name : String) := (receive r.watched (greeting name)).run d.watched
    (∃ p c, (o "sensor").2.peers.ofSender? asking.sender = some p ∧
      d.peers.Introduced (w "sensor") .busCan p ∧ (o "sensor").2.world.calls = [c] ∧ c.ok = true) ∧
    ∃ p, (o "a\x00b").2.peers.ofSender? asking.sender = some p ∧
      ¬ d.peers.Introduced (w "a\x00b") .busCan p := by
  intro r w d greeting o
  have hr : Settings.Builds {} r := ⟨by decide +kernel, rfl, rfl⟩
  have hadded : PeerStore.Step (.new ⟨2, 0, 0, 0, 0, 1⟩ 1)
      ⟨.add "peer" ⟨2, 0, 0, 0, 0, 2⟩ (.singleton .busCan), false⟩ (.ok (.added ⟨1⟩)) d.peers := rfl
  have htakes : d.peers.Takes asking.sender := ⟨rfl, .inl rfl⟩
  constructor
  · have hw : Settings.Builds { node := { name := "sensor" } } (w "sensor") :=
      ⟨by decide +kernel, rfl, rfl⟩
    obtain ⟨p, hp, hright, -, -, hanswer⟩ :=
      (introduced_iff (f := greeting "sensor") hw hr (.snoc .nil hadded) (.inl rfl) rfl).2 htakes
    have hp' : d.peers.Introduced (w "sensor") .busCan p := hright (by decide)
    obtain ⟨c, hcalls, hok⟩ := (hanswer rfl).2.2
      (Wiring.reaches_sink rfl (by rw [hp'.media]; simp) (by decide +kernel) _ _)
    exact ⟨p, c, hp, hp', hcalls, hok⟩
  · have hw : Settings.Builds { node := { name := "a\x00b" } } (w "a\x00b") :=
      ⟨by decide +kernel, rfl, rfl⟩
    obtain ⟨p, hp, -, honly, -⟩ :=
      (introduced_iff (f := greeting "a\x00b") hw hr (.snoc .nil hadded) (.inl rfl) rfl).2 htakes
    refine ⟨p, hp, fun h => ?_⟩
    have hnew : ∀ q ∈ d.peers.peers, q.name ≠ "a\x00b" := by decide
    exact absurd (honly hnew h) (by decide)

end Dispatcher

end Multilink
