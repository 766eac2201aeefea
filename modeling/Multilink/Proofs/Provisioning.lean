import Mathlib.Data.List.Nodup
import Multilink.Configuration
import Multilink.Proofs.Construction
import Multilink.Proofs.Membership
import Multilink.Proofs.Sending
/-!
# Provisioning from a configuration

A configuration lists the peers that a node knows from the start. Its check looks at the text of each
one by itself, and at their number. The store of the node also compares them, by name and by address,
and it has a rule for names. So the peers of a configuration that is accepted can be provisioned
exactly if they also have names that fit, and no two have the same name or the same address, however
the addresses are spelled (`Configuration.provisioned_iff`).

`PeerStore.Seated` is what a store has come to after some peers, and `PeerStore.Seatable` says which
peers it takes.
-/

namespace Multilink

/-- What a peer is provisioned with. -/
structure Provision where
  name : String
  address : Address
  media : MediaSet

/-- What the description of a peer in a configuration comes to. -/
def PeerEntry.provision (p : PeerEntry) : Except PeerFault Provision := do
  let (address, media) ← p.parse
  pure { name := p.name, address, media }

/-- Provisions peers in turn. -/
def Dispatcher.provisionAll {W : Type} : List Provision → Act (Dispatcher W) (List Handle)
  | [] => pure []
  | p :: rest => do
    let handle ← provision p.name p.address p.media
    let others ← provisionAll rest
    pure (handle :: others)

/-! ## What a check accepts -/

namespace Configuration

variable {c : Configuration}

theorem checkPeer_ok {own : Address} {p : PeerEntry} (h : checkPeer own p = .ok ()) :
    ∃ q, p.provision = .ok q ∧ q.name = p.name := by
  obtain ⟨⟨address, media⟩, hparse, -⟩ := Except.bind_eq_ok_iff.1 h
  cases hp : p.parse with
  | error fault =>
    rw [hp] at hparse
    cases hparse
  | ok out => exact ⟨⟨p.name, out.1, out.2⟩, by rw [PeerEntry.provision, hp]; rfl, rfl⟩

theorem forM_ok {own : Address} {ps : List PeerEntry} (h : ps.forM (checkPeer own) = .ok ()) :
    ∃ qs : List Provision, ps.map PeerEntry.provision = qs.map .ok ∧ qs.map (·.name) = ps.map (·.name) := by
  induction ps with
  | nil => exact ⟨[], rfl, rfl⟩
  | cons p ps ih =>
    obtain ⟨⟨⟩, hp, hps⟩ := Except.bind_eq_ok_iff.1 h
    obtain ⟨q, hq, hname⟩ := checkPeer_ok hp
    obtain ⟨qs, hqs, hnames⟩ := ih hps
    exact ⟨q :: qs, by rw [List.map_cons, hq, hqs]; rfl,
      by rw [List.map_cons, hname, hnames]; rfl⟩

/-- An accepted configuration has acceptable settings, room for its peers, and a reading of each. -/
theorem of_check (h : c.check = .ok ()) :
    c.settings.check = .ok () ∧ c.peers.length ≤ c.settings.node.peerCapacity ∧
      ∃ qs : List Provision, c.peers.map PeerEntry.provision = qs.map .ok ∧
        qs.map (·.name) = c.peers.map (·.name) := by
  obtain ⟨⟨⟩, hsettings, h⟩ := Except.bind_eq_ok_iff.1 h
  split at h
  · cases h
  · next hroom =>
    obtain ⟨own, -, h⟩ := Except.bind_eq_ok_iff.1 h
    refine ⟨?_, by omega, forM_ok h⟩
    cases hc : c.settings.check with
    | error e =>
      rw [hc] at hsettings
      cases hsettings
    | ok => rfl

end Configuration

/-! ## What a store takes -/

/-- The name and the place of a peer, as far as the store compares them. -/
def Peer.seat (p : Peer) : String × Address :=
  (p.name, p.address)

def Provision.seat (p : Provision) : String × Address :=
  (p.name, p.address)

namespace PeerStore

variable {s t : PeerStore} {name : String} {a : Address} {capacity : Nat} {done : List Provision}
variable {p : Provision}

/-- Peers that a store with so many slots takes one after the other. -/
structure Seatable (capacity : Nat) (ps : List Provision) : Prop where
  named : ∀ p ∈ ps, nameFault? p.name = none
  names : (ps.map (·.name)).Nodup
  addresses : (ps.map (·.address)).Nodup
  room : ps.length ≤ capacity
  handles : ps.length + 1 < 2 ^ 32

theorem Seatable.of_append {qs : List Provision} (h : Seatable capacity (done ++ qs)) :
    Seatable capacity done := by
  obtain ⟨hnamed, hnames, haddresses, hroom, hhandles⟩ := h
  rw [List.map_append] at hnames haddresses
  rw [List.length_append] at hroom hhandles
  exact ⟨fun p hp => hnamed p (List.mem_append_left _ hp), (List.nodup_append.1 hnames).1,
    (List.nodup_append.1 haddresses).1, by omega, by omega⟩

theorem seatable_snoc_iff (h : Seatable capacity done) : Seatable capacity (done ++ [p]) ↔
    nameFault? p.name = none ∧ (∀ q ∈ done, q.name ≠ p.name) ∧
      (∀ q ∈ done, q.address ≠ p.address) ∧ done.length < capacity ∧
      done.length + 2 < 2 ^ 32 := by
  have hnames : ((done ++ [p]).map (·.name)).Nodup ↔ ∀ q ∈ done, q.name ≠ p.name := by
    simp [List.nodup_append, h.names]
  have haddresses : ((done ++ [p]).map (·.address)).Nodup ↔ ∀ q ∈ done, q.address ≠ p.address := by
    simp [List.nodup_append, h.addresses]
  have hlength : (done ++ [p]).length = done.length + 1 := List.length_append
  rw [← hnames, ← haddresses]
  constructor
  · intro hall
    have hroom := hall.room
    have hhandles := hall.handles
    exact ⟨hall.named p (List.mem_append_right _ (.head _)), hall.names, hall.addresses, by omega,
      by omega⟩
  · rintro ⟨hnamed, hn, ha, hroom, hhandles⟩
    refine ⟨fun q hq => ?_, hn, ha, by omega, by omega⟩
    obtain hq | hq := List.mem_append.1 hq
    · exact h.named q hq
    · exact List.mem_singleton.1 hq ▸ hnamed

/-- The store, with so many slots, has come to hold these peers and no others before or since. -/
structure Seated (s : PeerStore) (capacity : Nat) (done : List Provision) : Prop where
  free : s.held = false
  slots : s.capacity = capacity
  next : s.nextHandle.toNat = done.length + 1
  seats : (s.peers.map Peer.seat).Perm (done.map Provision.seat)

theorem Seated.length (h : s.Seated capacity done) : s.peers.length = done.length := by
  simpa using h.seats.length_eq

theorem Seated.names_iff (h : s.Seated capacity done) :
    (∀ q ∈ s.peers, q.name ≠ name) ↔ ∀ q ∈ done, q.name ≠ name := by
  have hperm : (s.peers.map (·.name)).Perm (done.map (·.name)) := by
    simpa [Function.comp_def, Peer.seat, Provision.seat] using h.seats.map Prod.fst
  simpa using (hperm.mem_iff (a := name)).not

theorem Seated.addresses_iff (h : s.Seated capacity done) :
    (∀ q ∈ s.peers, q.address ≠ a) ↔ ∀ q ∈ done, q.address ≠ a := by
  have hperm : (s.peers.map (·.address)).Perm (done.map (·.address)) := by
    simpa [Function.comp_def, Peer.seat, Provision.seat] using h.seats.map Prod.snd
  simpa using (hperm.mem_iff (a := a)).not

/-- A change that leaves alone what the store compares. -/
theorem Seated.changed {h : Handle} {f : Peer → Peer} {slots : List (Option Peer)}
    (hs : s.Seated capacity done) (hat : ChangedAt h (fun p => some (f p)) s.slots slots)
    (hf : ∀ p, (f p).seat = p.seat) : ({ s with slots } : PeerStore).Seated capacity done := by
  obtain ⟨q, rest, -, hbefore, hafter⟩ := peers_changedAt (t := { s with slots }) hat rfl
  refine ⟨hs.free, hs.slots, hs.next, (hafter.map Peer.seat).trans ?_⟩
  rw [Option.toList_some, List.singleton_append, List.map_cons, hf, ← List.map_cons]
  exact (hbefore.map Peer.seat).symm.trans hs.seats

theorem Seated.placed {q : Peer} (hs : s.Seated capacity done) (hq : q.seat = p.seat)
    (hnext : done.length + 2 < 2 ^ 32) :
    ({ s with slots := place q s.slots, nextHandle := s.nextHandle + 1 } : PeerStore).Seated capacity
      (done ++ [p]) := by
  have hperm := peers_place (s := s)
    (t := { s with slots := place q s.slots, nextHandle := s.nextHandle + 1 }) (p := q) rfl
  refine ⟨hs.free, hs.slots, ?_, (hperm.map Peer.seat).trans ?_⟩
  · have h := hs.next
    rw [UInt32.toNat_add, List.length_append, List.length_singleton, h]
    exact Nat.mod_eq_of_lt hnext
  · rw [List.map_cons, hq, List.map_append]
    exact (hs.seats.cons _).trans (List.perm_append_singleton _ _).symm

theorem Seated.fits_iff (hs : s.Seated capacity done) (hdone : Seatable capacity done) :
    s.Fits p.name p.address ↔ Seatable capacity (done ++ [p]) := by
  have hlength := hs.length
  have hslots := hs.slots
  have hnext := hs.next
  rw [seatable_snoc_iff hdone, ← hs.names_iff, ← hs.addresses_iff]
  constructor
  · rintro ⟨hnamed, hnames, haddresses, hroom, hhandle⟩
    exact ⟨hnamed, hnames, haddresses, by omega, by omega⟩
  · rintro ⟨hnamed, hnames, haddresses, hroom, hhandle⟩
    exact ⟨hnamed, hnames, haddresses, by omega, by omega⟩

theorem run_markProvisioned {h : Handle} (hs : s.Seated capacity done)
    (live : ∃ q ∈ s.peers, q.handle = h) :
    ∃ t, (markProvisioned h).run s = (.ok (), t) ∧ t.Seated capacity done := by
  obtain ⟨hheld, -⟩ | ⟨-, hnone, -⟩ | ⟨-, q, slots, -, hat, hrun⟩ :=
    run_update h (fun p => { p with provisioned := true, trust := .knownInsecure }) s
  · cases hheld.symm.trans hs.free
  · exact absurd hnone (ofHandle?_ne_none_iff.2 live)
  · exact ⟨_, hrun, hs.changed hat fun _ => rfl⟩

end PeerStore

namespace Dispatcher

open Act PeerStore

variable {W : Type} {d : Dispatcher W} {capacity : Nat} {done : List Provision}

/-- One more peer is provisioned exactly if the store takes it after the others. -/
theorem provision_cases (hs : d.peers.Seated capacity done) (hdone : Seatable capacity done)
    (p : Provision) :
    (Seatable capacity (done ++ [p]) ∧ ∃ handle t,
      (provision p.name p.address p.media).run d = (.ok handle, t) ∧
        t.peers.Seated capacity (done ++ [p])) ∨
    (¬ Seatable capacity (done ++ [p]) ∧ ∃ e,
      (provision p.name p.address p.media).run d = (.error e, d)) := by
  rw [← hs.fits_iff hdone]
  unfold provision
  obtain ⟨-, hfits, hrun⟩ | ⟨hfits, e, -, hrun⟩ := run_add p.name p.address p.media d.peers
  · refine .inl ⟨hfits, ?_⟩
    rw [run_bind_ok (run_onPeers hrun)]
    have hall := (seatable_snoc_iff hdone).1 ((hs.fits_iff hdone).1 hfits)
    let q := Peer.make ⟨d.peers.nextHandle⟩ p.name p.address p.media d.peers.localAddress
    have hplaced := hs.placed (p := p) (q := q) rfl hall.2.2.2.2
    have hperm := peers_place (s := d.peers) (p := q)
      (t := { d.peers with slots := place q d.peers.slots, nextHandle := d.peers.nextHandle + 1 }) rfl
    obtain ⟨t, hmark, ht⟩ := run_markProvisioned hplaced ⟨q, hperm.symm.subset (.head _), rfl⟩
    exact ⟨_, _, run_bind_ok (run_onPeers hmark), ht⟩
  · exact .inr ⟨fun h => hfits ⟨hs.free, h⟩, e, run_bind_error (run_onPeers hrun)⟩

/-- Peers are provisioned in turn exactly if the store takes them after the others. -/
theorem provisionAll_iff (hs : d.peers.Seated capacity done) (hdone : Seatable capacity done)
    (ps : List Provision) :
    (∃ handles t, (provisionAll ps).run d = (.ok handles, t)) ↔ Seatable capacity (done ++ ps) := by
  induction ps generalizing d done with
  | nil =>
    rw [List.append_nil]
    exact iff_of_true ⟨[], d, rfl⟩ hdone
  | cons p ps ih =>
    rw [show done ++ p :: ps = done ++ [p] ++ ps from List.append_cons _ _ _, provisionAll]
    obtain ⟨hall, handle, t, hrun, ht⟩ | ⟨hnot, e, hrun⟩ := provision_cases hs hdone p
    · rw [run_bind_ok hrun, ← ih ht hall]
      constructor
      · rintro ⟨handles, u, h⟩
        cases hrest : (provisionAll ps).run t with
        | mk r v =>
          cases r with
          | ok others => exact ⟨others, v, rfl⟩
          | error e => cases (run_bind_error hrest).symm.trans h
      · rintro ⟨handles, u, h⟩
        exact ⟨handle :: handles, u, by rw [run_bind_ok h]; rfl⟩
    · rw [run_bind_error hrun]
      exact iff_of_false (fun ⟨_, _, h⟩ => nomatch h) fun h => hnot h.of_append

end Dispatcher

/-! ## Provisioning -/

/-- The peers of a configuration that is accepted can be read, and can all be provisioned in turn on
a new node exactly if their names fit and no two share a name or an address. They also have to be
fewer than there are handles. -/
theorem Configuration.provisioned_iff {c : Configuration} {plan : NodePlan} {bus bus' : Bus}
    {n : Node} (hc : c.check = .ok ()) (hplan : plan.settings = c.settings)
    (hn : Node.build plan bus = .ok (n, bus')) :
    ∃ ps : List Provision, c.peers.map PeerEntry.provision = ps.map .ok ∧
      ((∃ handles t, (Dispatcher.provisionAll ps).run n.station.core = (.ok handles, t)) ↔
        (∀ p ∈ c.peers, 1 ≤ p.name.utf8ByteSize ∧ p.name.utf8ByteSize ≤ 32) ∧
        (c.peers.map (·.name)).Nodup ∧ (ps.map (·.address)).Nodup ∧
        c.peers.length + 1 < 2 ^ 32) := by
  obtain ⟨-, hroom, ps, hps, hnames⟩ := of_check hc
  have hlength : ps.length = c.peers.length := by simpa using (congrArg List.length hps).symm
  obtain ⟨application, address, attached, intakes, -, -, -, rfl⟩ := Node.eq_of_build hn
  have hseated : (Station.fresh (Node.stationPlan plan address)
      (.new address plan.settings.node.peerCapacity) attached).core.peers.Seated
      c.settings.node.peerCapacity [] :=
    ⟨rfl, congrArg (·.node.peerCapacity) hplan, rfl, .nil⟩
  refine ⟨ps, hps, ?_⟩
  rw [Dispatcher.provisionAll_iff hseated ⟨nofun, .nil, .nil, Nat.zero_le _, by decide⟩,
    List.nil_append, ← hnames, ← hlength]
  have hfit : (∀ p ∈ c.peers, 1 ≤ p.name.utf8ByteSize ∧ p.name.utf8ByteSize ≤ 32) ↔
      ∀ p ∈ ps, PeerStore.nameFault? p.name = none := by
    have hsame : (∀ name ∈ c.peers.map (·.name), PeerStore.nameFault? name = none) ↔
        ∀ name ∈ ps.map (·.name), PeerStore.nameFault? name = none := by
      rw [hnames]
    simpa only [List.forall_mem_map, PeerStore.nameFault?_eq_none_iff] using hsame
  rw [hfit]
  constructor
  · rintro ⟨hnamed, hnames, haddresses, -, hhandles⟩
    exact ⟨hnamed, hnames, haddresses, hhandles⟩
  · rintro ⟨hnamed, hnames, haddresses, hhandles⟩
    exact ⟨hnamed, hnames, haddresses, by omega, hhandles⟩

/-- Two peers at one address, which is spelled in two ways. -/
def Configuration.twins : Configuration where
  peers :=
    [{ name := "left", address := "02:00:00:00:00:09", media := ["bus-can"] },
     { name := "right", address := "2-0-0-0-0-9", media := ["bus-can"] }]

/-- They are accepted, and cannot both be provisioned. -/
theorem Configuration.twins_refused :
    let plan : NodePlan :=
      { settings := twins.settings, outlets := [.link .busCan], application := some fun _ => none }
    twins.check = .ok () ∧ ∃ n bus', Node.build plan {} = .ok (n, bus') ∧
      ∃ ps : List Provision, twins.peers.map PeerEntry.provision = ps.map .ok ∧
        ¬ ∃ handles t, (Dispatcher.provisionAll ps).run n.station.core = (.ok handles, t) := by
  intro plan
  have hc : twins.check = .ok () := by rfl
  obtain ⟨⟨n, bus'⟩, hn⟩ : ∃ built, Node.build plan {} = .ok built := by
    have hroom : plan.settings.node.peerCapacity ≤ plan.memory.slots := by decide
    obtain ⟨n, bus', hn⟩ := (Node.build_iff plan {}).1.2
      ⟨(of_check hc).1, rfl, List.cons_ne_nil _ _, nofun, hroom⟩
    exact ⟨_, hn⟩
  obtain ⟨ps, hps, hiff⟩ := provisioned_iff hc rfl hn
  refine ⟨hc, n, bus', hn, ps, hps, fun h => ?_⟩
  obtain ⟨-, -, haddresses, -⟩ := hiff.1 h
  have htwice : ps = [⟨"left", ⟨2, 0, 0, 0, 0, 9⟩, .singleton .busCan⟩,
      ⟨"right", ⟨2, 0, 0, 0, 0, 9⟩, .singleton .busCan⟩] := by
    refine (List.map_injective_iff.2 fun _ _ => Except.ok.inj) (hps.symm.trans ?_)
    rfl
  rw [htwice] at haddresses
  exact absurd haddresses (by decide)

end Multilink
