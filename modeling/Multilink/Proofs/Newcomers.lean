import Multilink.Proofs.Delivery
import Multilink.Proofs.Payloads
/-!
# Newcomers

A sender that is not known by its address becomes a peer, under a name made from the address. For
this there has to be a free slot, a handle and a name that nobody has (`PeerStore.Room`), and nothing
else can prevent it (`Dispatcher.run_resolveSender_handshake`).
-/

namespace Multilink

namespace PeerStore

variable {s : PeerStore} {p : Peer}

open Dispatcher (shortName fullName)

/-- Both names that are made from an address are taken. -/
def Clash (s : PeerStore) (a : Address) : Prop :=
  (∃ p ∈ s.peers, p.name = shortName a) ∧ ∃ p ∈ s.peers, p.name = fullName a

/-- There is a slot and a handle for a new peer at an address, and nobody has one of the names that
are made from it. -/
structure Room (s : PeerStore) (a : Address) : Prop where
  slot : s.peers.length < s.capacity
  handle : s.nextHandle.toNat + 1 < 2 ^ 32
  name : (∀ p ∈ s.peers, p.name ≠ shortName a) ∨ ∀ p ∈ s.peers, p.name ≠ fullName a

theorem Room.not_clash {a : Address} (h : s.Room a) : ¬ s.Clash a := by
  rintro ⟨⟨p, hp, hshort⟩, q, hq, hfull⟩
  exact h.name.elim (fun h => h p hp hshort) fun h => h q hq hfull

/-- The store has a peer that the sender stands for, or can take one in. -/
def Takes (s : PeerStore) (sender : Sender) : Prop :=
  s.held = false ∧
    ((s.ofSender? sender).isSome = true ∨ ∃ a, sender = .address a ∧ s.Room a)

/-- An address tells a peer from all others. -/
theorem WellFormed.ofSender?_address {a : Address} {capacity : Nat}
    (hw : WellFormed a capacity s.peers) (hp : p ∈ s.peers) :
    s.ofSender? (.address p.address) = some p := by
  show s.peers.find? (Query.test (.address p.address)) = some p
  exact (hw.find?_eq_some_iff rfl).2 ⟨hp, beq_self_eq_true p.address⟩

/-- The sender keeps standing for a peer whose record changes. -/
theorem Seat.ofSender? {h : Handle} {before after : List (Option Peer)} {sender : Sender} {q : Peer}
    (hs : s.Seat h before after p) (hp : s.ofSender? sender = some p)
    (hq : q.identity = p.identity) : (s.seating before after q).ofSender? sender = some q := by
  have hsender := List.find?_some hp
  have hbefore : (before.filterMap id).find? (fun r => sender.isOf r.identity) = none := by
    rw [PeerStore.ofSender?, peers, hs.slots, List.filterMap_append, List.find?_append] at hp
    cases hfound : (before.filterMap id).find? (fun r => sender.isOf r.identity) with
    | none => rfl
    | some r =>
      -- it would be found before its own slot
      rw [hfound] at hp
      cases hp
      have hmem := List.mem_of_find?_eq_some hfound
      exact absurd hs.handle (hs.first p (by simpa using hmem))
  rw [PeerStore.ofSender?, peers, seating, List.filterMap_append, List.find?_append, hbefore]
  simp [hq, hsender]

theorem Seat.mem_seating {h : Handle} {before after : List (Option Peer)} {q r : Peer}
    (hs : s.Seat h before after p) (hq : q.handle ≠ h) (hr : r.handle = h) :
    q ∈ (s.seating before after r).peers ↔ q ∈ s.peers := by
  have hp : q ≠ p := fun he => hq (he ▸ hs.handle)
  have hr : q ≠ r := fun he => hq (he ▸ hr)
  simp [mem_peers_iff, seating, hs.slots, hp, hr]

/-- The record of a new peer under the next handle. -/
def newcomer (s : PeerStore) (name : String) (a : Address) (m : Media) : Peer :=
  .make ⟨s.nextHandle⟩ name a (.singleton m) s.localAddress

/-- What adding a peer at a new address comes to: the name is taken, there is no room, or the peer
is added. -/
theorem run_add_new {name : String} {a : Address} (free : s.held = false)
    (named : nameFault? name = none) (new : ∀ p ∈ s.peers, p.address ≠ a) (m : Media) :
    ((∃ p ∈ s.peers, p.name = name) ∧
      (add name a (.singleton m)).run s = (.error (.peerExists name), s)) ∨
    ((∀ p ∈ s.peers, p.name ≠ name) ∧
      ¬ (s.peers.length < s.capacity ∧ s.nextHandle.toNat + 1 < 2 ^ 32) ∧
      (add name a (.singleton m)).run s = (.error (.outOfMemory s.capacity), s)) ∨
    (s.Admits (s.newcomer name a m) ∧ (add name a (.singleton m)).run s = (.ok ⟨s.nextHandle⟩,
      { s with
        slots := place (s.newcomer name a m) s.slots
        nextHandle := s.nextHandle + 1 })) := by
  have haddress : (s.peers.any (·.address == a)) = false := by simpa using new
  have hnext := s.nextHandle.toNat_lt
  simp only [add, named, locked, Act.run, free, haddress, Bool.false_eq_true, if_false]
  split
  · next htaken => exact .inl ⟨by simpa using htaken, rfl⟩
  · next hfree =>
    have hnames : ∀ q ∈ s.peers, q.name ≠ name := by simpa using hfree
    split
    · next hfull => exact .inr (.inl ⟨hnames, by omega, rfl⟩)
    · next hslot =>
      split
      · next hlast => exact .inr (.inl ⟨hnames, by omega, rfl⟩)
      · next hhandle =>
        refine .inr (.inr ⟨?_, rfl⟩)
        exact ⟨rfl, Nat.lt_of_not_le hslot, by omega, named, hnames, new, rfl,
          Peer.measured_setMedia _ _⟩

end PeerStore

namespace Dispatcher

open Act

theorem nameFault?_made (bs : Bytes) (h : bs.length ≤ 13) :
    PeerStore.nameFault? ("peer-" ++ Bytes.toHex bs) = none := by
  have hprefix : "peer-".utf8ByteSize = 5 := by decide
  rw [PeerStore.nameFault?_eq_none_iff, String.utf8ByteSize_append, Bytes.utf8ByteSize_toHex,
    hprefix]
  omega

theorem null_notMem_made (bs : Bytes) : '\x00' ∉ ("peer-" ++ Bytes.toHex bs).toList := by
  rw [String.toList_append, List.mem_append]
  rintro (hmem | hmem)
  · exact absurd hmem (by decide)
  · exact Bytes.null_notMem_toHex bs hmem

/-- What learning the peer at a new address comes to: both names that are made from the address are
taken, there is no slot or no handle for it, or it is added under one of the names. -/
inductive Learned {W : Type} (a : Address) (m : Media) (d : Dispatcher W) :
    Except Error Handle × Dispatcher W → Prop
  | clash (taken : d.peers.Clash a) : Learned a m d (.error (.peerExists (fullName a)), d)
  | full (named : ¬ d.peers.Clash a)
      (occupied : ¬ (d.peers.peers.length < d.peers.capacity ∧ d.peers.nextHandle.toNat + 1 < 2 ^ 32)) :
      Learned a m d (.error (.outOfMemory d.peers.capacity), d)
  | added {name : String} (room : d.peers.Room a) (admitted : d.peers.Admits (d.peers.newcomer name a m))
      (text : '\x00' ∉ name.toList) :
      Learned a m d (.ok ⟨d.peers.nextHandle⟩, d.joined (d.peers.newcomer name a m))

theorem learned {W : Type} {d : Dispatcher W} {a : Address} (free : d.peers.held = false)
    (new : d.peers.ofSender? (.address a) = none) (m : Media) :
    Learned a m d ((learn a m).run d) := by
  have haddress : ∀ p ∈ d.peers.peers, p.address ≠ a := by
    simpa [PeerStore.ofSender?, Sender.isOf, Peer.identity] using new
  have hshort : PeerStore.nameFault? (shortName a) = none :=
    nameFault?_made _ (by simp [Address.bytes])
  have hfull : PeerStore.nameFault? (fullName a) = none :=
    nameFault?_made _ (by simp [Address.bytes])
  unfold learn
  rcases PeerStore.run_add_new free hshort haddress m with
    ⟨htaken, hrun⟩ | ⟨hname, hroom, hrun⟩ | ⟨hp, hrun⟩
  · rw [run_bind_attempt (run_onPeers hrun)]
    simp only []
    rw [run_bind, run_findAddress?, free, new]
    simp only [Bool.false_eq_true, if_false, Option.map_none]
    rcases PeerStore.run_add_new free hfull haddress m with
      ⟨htaken', hrun⟩ | ⟨hname, hroom, hrun⟩ | ⟨hp, hrun⟩
    · rw [run_onPeers hrun]
      exact .clash ⟨htaken, htaken'⟩
    · rw [run_onPeers hrun]
      refine .full ?_ hroom
      rintro ⟨-, q, hq, hname'⟩
      exact hname q hq hname'
    · rw [run_onPeers hrun]
      exact .added ⟨hp.room, hp.next, .inr hp.name_free⟩ hp (null_notMem_made _)
  · rw [run_bind_attempt (run_onPeers hrun)]
    refine .full ?_ hroom
    rintro ⟨⟨q, hq, hname'⟩, -⟩
    exact hname q hq hname'
  · rw [run_bind_attempt (run_onPeers hrun)]
    exact .added ⟨hp.room, hp.next, .inl hp.name_free⟩ hp (null_notMem_made _)

/-- The peer that a sender stands for after it was taken in: one that was known, or a new one whose
name is made from its address. -/
structure Recorded {W : Type} (sender : Sender) (d : Dispatcher W) (p : Peer) (t : Dispatcher W) :
    Prop where
  sender : t.peers.ofSender? sender = some p
  seat : ∃ before after, t.peers.Seat p.handle before after p
  others : ∀ q, q.handle ≠ p.handle → (q ∈ t.peers.peers ↔ q ∈ d.peers.peers)
  named : (∃ q ∈ d.peers.peers, q.name = p.name) ∨ '\x00' ∉ p.name.toList
  world : t.world = d.world

theorem recorded_joined {W : Type} {d : Dispatcher W} {p : Peer} {a : Address} {capacity : Nat}
    {given taken : List Handle} (hi : PeerStore.Inv a capacity given taken d.peers)
    (free : d.peers.held = false) (hp : d.peers.Admits p) (hname : '\x00' ∉ p.name.toList) :
    Recorded (.address p.address) d p (d.joined p) := by
  have hperm : (d.joined p).peers.peers.Perm (p :: d.peers.peers) :=
    PeerStore.peers_place (s := d.peers) rfl
  have hmem : p ∈ (d.joined p).peers.peers := hperm.symm.subset (.head _)
  have hw := (hi.added hp).wellFormed
  refine ⟨hw.ofSender?_address hmem, hw.exists_seat free hmem, fun q hq => ?_, .inr hname, rfl⟩
  rw [hperm.mem_iff, List.mem_cons]
  exact or_iff_right fun he => hq (congrArg Peer.handle he)

/-- Hearing the peer only counts. -/
theorem Recorded.heard {W : Type} {sender : Sender} {d t : Dispatcher W} {p : Peer}
    (h : Recorded sender d p t) (m : Media) :
    Recorded sender d (p.updateStats m (·.recordReceive true)) (t.heard m p.handle) := by
  obtain ⟨before, after, hs⟩ := h.seat
  let q := p.updateStats m (·.recordReceive true)
  rw [heard_seat hs]
  refine ⟨hs.ofSender? h.sender rfl, ⟨before, after, hs.replace rfl⟩, fun r hr => ?_, h.named,
    h.world⟩
  exact (hs.mem_seating (r := q) hr rfl).trans (h.others r hr)

/-- A sender that comes with a handshake is attributed to a peer exactly if the store has it or can
take it in. -/
theorem run_resolveSender_handshake {W : Type} (w : Wiring W) {d : Dispatcher W} {a : Address}
    {capacity : Nat} {given taken : List Handle} (hi : PeerStore.Inv a capacity given taken d.peers)
    (sender : Sender) (m : Media) :
    (¬ d.peers.Takes sender ∧
      ∃ e, (resolveSender w sender m .handshake).run d = (.error e, d)) ∨
    (d.peers.Takes sender ∧ ∃ p t, Recorded sender d p t ∧
      (resolveSender w sender m .handshake).run d = (.ok p.handle, t)) := by
  cases hs : d.peers.ofSender? sender with
  | some p =>
    rw [run_resolveSender_known w hs]
    cases free : d.peers.held with
    | true => exact .inl ⟨fun h => absurd (free.symm.trans h.1) (by decide), _, rfl⟩
    | false =>
      have hmem := List.mem_of_find?_eq_some hs
      have hknown : Recorded sender d p d :=
        ⟨hs, hi.wellFormed.exists_seat free hmem, fun _ _ => .rfl, .inl ⟨p, hmem, rfl⟩, rfl⟩
      exact .inr ⟨⟨free, .inl (by simp [hs])⟩, p, d, hknown, rfl⟩
  | none =>
    rw [resolveSender_eq, run_bind, run_findSender?, hs]
    cases free : d.peers.held with
    | true => exact .inl ⟨fun h => absurd (free.symm.trans h.1) (by decide), _, rfl⟩
    | false =>
      have htakes : d.peers.Takes sender ↔ ∃ a, sender = .address a ∧ d.peers.Room a := by
        simp [PeerStore.Takes, free, hs]
      rw [htakes]
      cases sender with
      | relation r => exact .inl ⟨by simp, _, rfl⟩
      | address b =>
        have hrefused (hroom : ¬ d.peers.Room b) :
            ¬ ∃ a, Sender.address b = .address a ∧ d.peers.Room a := by
          rintro ⟨a, ⟨⟩, h⟩
          exact hroom h
        have hlearned := learned free hs m
        generalize hrun : (learn b m).run d = o at hlearned
        cases hlearned with
        | clash htaken =>
          exact .inl ⟨hrefused fun h => h.not_clash htaken, _, run_bind_error hrun⟩
        | full _ hfull =>
          exact .inl ⟨hrefused fun h => hfull ⟨h.slot, h.handle⟩, _, run_bind_error hrun⟩
        | added hroom hp hname =>
          exact .inr ⟨⟨b, rfl, hroom⟩, _, _, recorded_joined hi free hp hname, run_bind_ok hrun⟩

end Dispatcher

end Multilink
