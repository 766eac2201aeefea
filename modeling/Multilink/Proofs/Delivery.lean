import Multilink.Proofs.Outgoing
/-!
# What reaches a peer

Sending to a peer that is there notes what happened in the statistics of this peer and changes
nothing else of it (`Peer.Recounted`). If the links to the peer work, the first attempt carries the
frame and no other is made (`Errand.Tries.reaching`).
-/

namespace Multilink

/-! ## Statistics -/

namespace Peer

/-- Nothing of the peer has changed but its statistics, which are kept for the same media. -/
structure Recounted (p q : Peer) : Prop where
  rest : ∃ stats, q = { p with stats }
  measured : p.Measured → q.Measured

namespace Recounted

variable {p q r : Peer}

theorem refl (p : Peer) : p.Recounted p := ⟨⟨p.stats, rfl⟩, fun h => h⟩

theorem trans (hpq : p.Recounted q) (hqr : q.Recounted r) : p.Recounted r := by
  obtain ⟨stats, rfl⟩ := hpq.rest
  obtain ⟨stats', rfl⟩ := hqr.rest
  exact ⟨⟨stats', rfl⟩, fun h => hqr.measured (hpq.measured h)⟩

theorem identity (h : p.Recounted q) : q.identity = p.identity := by
  obtain ⟨stats, rfl⟩ := h.rest
  rfl

theorem updateStats (p : Peer) (m : Media) (f : LinkStats Score → LinkStats Score) :
    p.Recounted (p.updateStats m f) :=
  ⟨⟨_, rfl⟩, (p.kept_updateStats m f).measured⟩

theorem score? (p : Peer) (profiles : Profiles) (now : Micros) (length : Nat) (m : Media) :
    p.Recounted (p.score? profiles now length m).2 := by
  refine ⟨?_, (p.kept_score? profiles now length m).measured⟩
  unfold Peer.score?
  split
  · exact ⟨p.stats, rfl⟩
  · exact ⟨_, rfl⟩

theorem selectFrom (p : Peer) (profiles : Profiles) (now : Micros) (length : Nat) (ms : List Media)
    (best : Option (Media × Score)) : p.Recounted (selectFrom profiles now length ms best p).2 := by
  induction ms generalizing best p with
  | nil => exact .refl p
  | cons m rest ih =>
    have hscore := score? p profiles now length m
    unfold Peer.selectFrom
    split
    · next q hq =>
      rw [hq] at hscore
      exact hscore.trans (ih q _)
    · next s q hq =>
      rw [hq] at hscore
      exact hscore.trans (ih q _)

theorem note {V : Type} (p : Peer) (c : Attempt V) : p.Recounted (p.note c) := by
  have hsent := updateStats p c.media (·.recordSend c.ok)
  unfold Peer.note
  dsimp only
  split
  · exact hsent.trans (updateStats ..)
  · exact hsent

end Recounted

end Peer

namespace Errand

variable {V : Type} {e : Errand V} {n : Nat} {p q : Peer} {v u : V} {cs : List (Attempt V)}
variable {r : Except Error Media}

theorem Tries.isOk_iff (h : e.Tries n p v cs r q u) :
    (∃ m, r = .ok m) ↔ ∃ c ∈ cs, c.ok = true := by
  refine ⟨?_, fun ⟨c, hc, hok⟩ => ⟨c.media, h.success c hc hok⟩⟩
  induction h with
  | spent | unmatched | uncarried => simp
  | sent => exact fun _ => ⟨_, .head _, rfl⟩
  | failed _ _ _ _ ih =>
    intro hr
    obtain ⟨c, hc, hok⟩ := ih hr
    exact ⟨c, .tail _ hc, hok⟩

theorem Tries.recounted (h : e.Tries n p v cs r q u) : p.Recounted q := by
  have hpick (p : Peer) : p.Recounted (e.pick p).2 := .selectFrom p ..
  induction h with
  | spent => exact .refl _
  | unmatched | uncarried => exact hpick _
  | sent => exact (hpick _).trans (.note _ _)
  | failed _ _ _ _ ih => exact ((hpick _).trans (.note _ _)).trans ih

end Errand

/-! ## Links that work -/

/-- There is a link to the peer with these media at this address, and each that can be chosen for
these bytes carries them. -/
structure Wiring.Reaches {V : Type} (w : Wiring V) (media : MediaSet) (target : Address)
    (bytes : Bytes) (world : V) : Prop where
  link : ∃ m, media.contains m = true ∧ (w.carrier? m bytes.length world).isSome = true
  carries : ∀ m driver, media.contains m = true → w.carrier? m bytes.length world = some driver →
    (driver.send target m bytes world).1 = .ok ()

/-- A driver that takes every frame reaches every peer on its medium. -/
theorem Wiring.reaches_sink {V : Type} {w : Wiring V} {m : Media} {media : MediaSet} {bytes : Bytes}
    (hw : w.drivers = [.sink m]) (hm : media.contains m = true)
    (hshort : bytes.length ≤ Driver.unlimited) (target : Address) (world : V) :
    w.Reaches media target bytes world := by
  refine ⟨⟨m, hm, Dispatcher.carrier?_isSome_iff.2 ⟨.sink m, by simp [hw], ?_, hshort⟩⟩,
    fun m' driver _ hdriver => ?_⟩
  · simp [Driver.sink]
  · have hmem := List.mem_of_find?_eq_some hdriver
    rw [hw, List.mem_singleton] at hmem
    rw [hmem]
    rfl

theorem Wiring.usable_of_carrier? {V : Type} {w : Wiring V} {m : Media} {length : Nat} {world : V}
    (h : (w.carrier? m length world).isSome = true) :
    (w.usable length world).contains m = true := by
  obtain ⟨driver, hdriver, hcarries, -⟩ := Dispatcher.carrier?_isSome_iff.1 h
  refine Dispatcher.usable_iff.2 ⟨?_, h⟩
  simp only [media, MediaSet.contains_ofList, List.mem_filter, List.any_eq_true]
  exact ⟨Media.mem_all m, driver, hdriver, hcarries⟩

theorem Errand.Tries.reaching {V : Type} {e : Errand V} {n : Nat} {p q : Peer} {v u : V}
    {cs : List (Attempt V)} {r : Except Error Media} (h : e.Tries (n + 1) p v cs r q u)
    (hp : p.Measured) (hu : e.usable = e.wiring.usable e.bytes.length v)
    (hlinks : e.wiring.Reaches p.media p.address e.bytes v) :
    ∃ c, cs = [c] ∧ c.ok = true ∧ r = .ok c.media := by
  obtain ⟨m, hm, hcarrier⟩ := hlinks.link
  have hpicked : (e.pick p).1.isSome = true :=
    Peer.select?_isSome hp hm (hu ▸ Wiring.usable_of_carrier? hcarrier)
  cases h with
  | unmatched pick => simp [pick] at hpicked
  | uncarried pick carrier =>
    have husable := (Peer.select?_mem pick).2
    rw [hu] at husable
    have hsome := (Dispatcher.usable_iff.1 husable).2
    rw [carrier] at hsome
    cases hsome
  | sent => exact ⟨_, rfl, rfl, rfl⟩
  | failed pick carrier send =>
    have hok := hlinks.carries _ _ (Peer.select?_mem pick).1 carrier
    rw [send] at hok
    cases hok

/-- What asking the drivers to carry bytes to a peer comes to: the outcome, the peer afterwards, and
the calls. -/
structure Delivery {V : Type} (w : Wiring V) (p : Peer) (bytes : Bytes) (world : V)
    (r : Except Error Media) (q : Peer) (calls : List (Attempt V)) : Prop where
  proper : Post.Proper w.attempts ⟨p.address, bytes, calls⟩
  peer : p.Recounted q
  isOk : (∃ m, r = .ok m) ↔ ∃ c ∈ calls, c.ok = true
  reaching : w.attempts ≠ 0 → p.Measured → w.Reaches p.media p.address bytes world →
    ∃ c, calls = [c] ∧ c.ok = true

namespace Dispatcher

open Act

variable {V : Type} {w : Wiring V} {peer : Handle} {before after : List (Option Peer)} {p : Peer}
variable {d : Dispatcher (Watched V)}

theorem heard_seat {W : Type} {d : Dispatcher W} (hs : d.peers.Seat peer before after p)
    (m : Media) : d.heard m peer =
      { d with peers := d.peers.seating before after (p.updateStats m (·.recordReceive true)) } :=
  congrArg Prod.snd (run_onPeers (hs.update _))

theorem run_send_seat (w : Wiring V) (hs : d.peers.Seat peer before after p) (kind : Kind)
    (v : UInt16) (payload : Bytes) :
    ∃ r q u cs, (send w.watched peer kind v payload).run d = (r, d.tried before after q u cs) ∧
      Delivery w p (Frame.build kind v payload) d.world.links r q cs := by
  obtain ⟨cs, r, q, u, hrun, htries⟩ := run_sendMessage_seat w (Frame.build kind v payload) hs
  have hsame : ∀ c ∈ cs, c.target = p.address ∧ c.bytes = Frame.build kind v payload :=
    fun c hc => ⟨(htries.routed c hc).target, (htries.routed c hc).content⟩
  refine ⟨r, q, u, cs, hrun, ⟨hsame, htries.length_le, htries.once⟩, htries.recounted,
    htries.isOk_iff, fun hn hp hlinks => ?_⟩
  obtain ⟨n, hn⟩ := Nat.exists_eq_succ_of_ne_zero hn
  rw [hn] at htries
  obtain ⟨c, hcs, hok, -⟩ := htries.reaching hp rfl hlinks
  exact ⟨c, hcs, hok⟩

end Dispatcher

end Multilink
