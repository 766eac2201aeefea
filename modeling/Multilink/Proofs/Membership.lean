import Mathlib.Algebra.Group.Nat.Defs
import Mathlib.Data.List.Nodup
import Mathlib.Data.List.Perm.Basic
import Multilink.Proofs.PeerStore
/-!
# Peers stay apart

Whatever is called on a store, and whether it succeeds or fails, no two live peers share a handle, a
name or an address, and each peer has the relation of its address and statistics for exactly its media.
A handle is given out once: `PeerStore.trace_wellFormed` says so about every row of calls, each of which
may find the store held by another activity.

All that a call can do to a store is one of four things, `PeerStore.Effect`: nothing, a change to one
peer that leaves alone who it is, a removal, or an addition under the next handle.
-/

namespace Multilink

/-! ## Changes to one peer -/

namespace Peer

/-- The peer has statistics for exactly its media. -/
def Measured (p : Peer) : Prop :=
  ∀ m, (p.stats.get m).isSome = p.media.contains m

/-- Handles, names and addresses tell peers from each other. -/
def Apart (p q : Peer) : Prop :=
  p.handle ≠ q.handle ∧ p.name ≠ q.name ∧ p.address ≠ q.address

theorem Apart.symm {p q : Peer} (h : Apart p q) : Apart q p :=
  ⟨h.1.symm, h.2.1.symm, h.2.2.symm⟩

/-- A change that leaves alone who the peer is and what it is called. -/
structure Kept (p q : Peer) : Prop where
  identity : q.identity = p.identity
  name : q.name = p.name
  measured : p.Measured → q.Measured

theorem Kept.refl (p : Peer) : Kept p p := ⟨rfl, rfl, fun h => h⟩

theorem Kept.trans {p q r : Peer} (hpq : Kept p q) (hqr : Kept q r) : Kept p r :=
  ⟨hqr.identity.trans hpq.identity, hqr.name.trans hpq.name, fun h => hqr.measured (hpq.measured h)⟩

theorem measured_setMedia (p : Peer) (media : MediaSet) : (p.setMedia media).Measured := by
  intro m
  rw [setMedia, PerMedia.get_ofFn]
  cases media.contains m <;> rfl

theorem kept_setMedia (p : Peer) (media : MediaSet) : Kept p (p.setMedia media) :=
  ⟨rfl, rfl, fun _ => measured_setMedia p media⟩

theorem kept_updateStats (p : Peer) (m : Media) (f : LinkStats Score → LinkStats Score) :
    Kept p (p.updateStats m f) := by
  refine ⟨rfl, rfl, fun h n => ?_⟩
  rw [updateStats, PerMedia.get_set]
  split
  · next hn => rw [Option.isSome_map, ← hn, h n]
  · exact h n

theorem kept_score? (p : Peer) (profiles : Profiles) (now : Micros) (length : Nat) (m : Media) :
    Kept p (p.score? profiles now length m).2 := by
  unfold score?
  split
  · exact .refl p
  · next s hs =>
    refine ⟨rfl, rfl, fun h n => ?_⟩
    rw [PerMedia.get_set]
    split
    · next hn => rw [Option.isSome_some, hn, ← h m, hs, Option.isSome_some]
    · exact h n

theorem kept_selectFrom (p : Peer) (profiles : Profiles) (now : Micros) (length : Nat)
    (ms : List Media) (best : Option (Media × Score)) :
    Kept p (selectFrom profiles now length ms best p).2 := by
  induction ms generalizing best p with
  | nil => exact .refl p
  | cons m rest ih =>
    obtain ⟨best', hcons⟩ := exists_selectFrom_cons profiles now length m rest best p
    rw [hcons]
    exact (p.kept_score? profiles now length m).trans (ih _ best')

end Peer

namespace PeerStore

/-- What becomes of a peer under a change: another name has to be a name that nobody else has. -/
structure Allows (s : PeerStore) (p q : Peer) : Prop where
  identity : q.identity = p.identity
  name : q.name = p.name ∨
    nameFault? q.name = none ∧ ∀ r ∈ s.peers, r.handle ≠ p.handle → r.name ≠ q.name
  measured : p.Measured → q.Measured

theorem Allows.of_kept {p q : Peer} (s : PeerStore) (h : p.Kept q) : s.Allows p q :=
  ⟨h.identity, .inl h.name, h.measured⟩

/-- A name that passes for the peer with a handle. -/
def nameFor? (s : PeerStore) (h : Handle) (name : Option String) : Option String :=
  name.filter fun n => (nameFault? n).isNone && !s.peers.any fun p => p.handle != h && p.name == n

theorem allows_introduce (s : PeerStore) (p : Peer) (name : Option String) (media : MediaSet)
    (version : Version) :
    s.Allows p (introduce (s.nameFor? p.handle name) media version p) := by
  have hkept : Peer.Kept { p with name := (s.nameFor? p.handle name).getD p.name }
      (introduce (s.nameFor? p.handle name) media version p) := by
    unfold introduce
    cases media.isEmpty with
    | true => exact ⟨rfl, rfl, fun h => h⟩
    | false => exact ⟨rfl, rfl, fun _ => Peer.measured_setMedia _ media⟩
  refine ⟨hkept.identity, ?_, fun h => hkept.measured h⟩
  rw [hkept.name]
  cases hn : s.nameFor? p.handle name with
  | none => exact .inl rfl
  | some n =>
    right
    obtain ⟨-, hfree⟩ := Option.filter_eq_some_iff.1 hn
    simpa using hfree

/-! ## Calls -/

inductive Change where
  | updateIdentity (name : Option String) (media : MediaSet) (version : Version)
  | recordSend (m : Media) (ok : Bool)
  | recordReceive (m : Media) (ok : Bool)
  | recordSpeed (m : Media) (speed : UInt32)
  | setAvailability (a : Availability)
  | setMedia (media : MediaSet)
  | setSecure
  | markProvisioned
  | score (profiles : Profiles) (now : Micros) (m : Media) (length : Nat)
  | select (profiles : Profiles) (now : Micros) (length : Nat) (usable : MediaSet)

inductive Query where
  | handle (h : Handle)
  | address (a : Address)
  | name (name : String)
  | relation (r : UInt32)

/-- What a query asks of a peer. -/
def Query.test : Query → Peer → Bool
  | .handle h => fun p => p.handle == h
  | .address a => fun p => p.address == a
  | .name n => fun p => p.name == n
  | .relation r => fun p => p.relation == r

inductive Op where
  | add (name : String) (address : Address) (media : MediaSet)
  | remove (h : Handle)
  | change (h : Handle) (c : Change)
  | snapshot (h : Handle)
  | find (q : Query)

inductive Answer where
  | added (h : Handle)
  | removed (p : Peer)
  | changed
  | scored (s : Option Score)
  | chosen (m : Option Media) (target : Address)
  | peer (p : Peer)
  | found (h : Option Handle)

def Change.act (h : Handle) : Change → Act PeerStore Answer
  | .updateIdentity name media version =>
    (fun _ => .changed) <$> PeerStore.updateIdentity h name media version
  | .recordSend m ok => (fun _ => .changed) <$> PeerStore.recordSend h m ok
  | .recordReceive m ok => (fun _ => .changed) <$> PeerStore.recordReceive h m ok
  | .recordSpeed m speed => (fun _ => .changed) <$> PeerStore.recordSpeed h m speed
  | .setAvailability a => (fun _ => .changed) <$> PeerStore.setAvailability h a
  | .setMedia media => (fun _ => .changed) <$> PeerStore.setMedia h media
  | .setSecure => (fun _ => .changed) <$> PeerStore.setSecure h
  | .markProvisioned => (fun _ => .changed) <$> PeerStore.markProvisioned h
  | .score profiles now m length => .scored <$> PeerStore.score profiles now h m length
  | .select profiles now length usable =>
    (fun (m, a) => .chosen m a) <$> PeerStore.select profiles now h length usable

def Query.act : Query → Act PeerStore (Option Handle)
  | .handle h => findHandle? h
  | .address a => findAddress? a
  | .name n => findName? n
  | .relation r => findRelation? r

def Op.act : Op → Act PeerStore Answer
  | .add name address media => .added <$> PeerStore.add name address media
  | .remove h => .removed <$> PeerStore.remove h
  | .change h c => c.act h
  | .snapshot h => .peer <$> PeerStore.snapshot h
  | .find q => .found <$> q.act

/-- A call, made while another activity holds the store or not. -/
structure Call where
  op : Op
  contended : Bool := false

def Step (s : PeerStore) (c : Call) (r : Except Error Answer) (t : PeerStore) : Prop :=
  c.op.act.run { s with held := c.contended } = (r, t)

/-- The handle that a call has given out. -/
def issued? : Call × Except Error Answer → Option Handle
  | (⟨.add _ _ _, _⟩, .ok (.added h)) => some h
  | _ => none

/-- The handle whose peer a call has removed. -/
def removed? : Call × Except Error Answer → Option Handle
  | (⟨.remove h, _⟩, .ok _) => some h
  | _ => none

/-! ## What a call can do -/

/-- A peer that may be added. -/
structure Admits (s : PeerStore) (p : Peer) : Prop where
  handle : p.handle = ⟨s.nextHandle⟩
  room : s.peers.length < s.capacity
  next : s.nextHandle.toNat + 1 < 2 ^ 32
  named : nameFault? p.name = none
  name_free : ∀ q ∈ s.peers, q.name ≠ p.name
  address_free : ∀ q ∈ s.peers, q.address ≠ p.address
  related : p.relation = Multilink.relation s.localAddress p.address
  measured : p.Measured

/-- What a call can do to a store: the handle it gives out, the handle it removes, and the store it
leaves. -/
inductive Effect (s : PeerStore) : Option Handle → Option Handle → PeerStore → Prop
  | nothing : Effect s none none s
  | changed {h : Handle} {f : Peer → Peer} {slots : List (Option Peer)}
      (where_ : ChangedAt h (fun p => some (f p)) s.slots slots)
      (allowed : ∀ p, p.handle = h → s.Allows p (f p)) :
      Effect s none none { s with slots }
  | removed {h : Handle} {slots : List (Option Peer)}
      (where_ : ChangedAt h (fun _ => none) s.slots slots) :
      Effect s none (some h) { s with slots }
  | added {p : Peer} (admitted : s.Admits p) :
      Effect s (some p.handle) none
        { s with slots := place p s.slots, nextHandle := s.nextHandle + 1 }

variable {s t : PeerStore} {h : Handle}

/-- What a call for the peer with a handle comes to: it fails and changes nothing, or there is such a
peer and it changes. -/
def Outcome (s : PeerStore) (h : Handle) (out : Except Error Answer × PeerStore) : Prop :=
  (s.held = true ∧ out = (.error (.lockTimeout "peer store"), s)) ∨
  (s.held = false ∧ s.ofHandle? h = none ∧ out = (.error (.peerNotFound h), s)) ∨
  (s.held = false ∧ s.ofHandle? h ≠ none ∧ ∃ a t, out = (.ok a, t) ∧ Effect s none none t)

/-- What a change makes of the peer with a handle. -/
def Change.apply (s : PeerStore) (h : Handle) : Change → Peer → Peer
  | .updateIdentity name media version => introduce (s.nameFor? h name) media version
  | .recordSend m ok => fun p => p.updateStats m (·.recordSend ok)
  | .recordReceive m ok => fun p => p.updateStats m (·.recordReceive ok)
  | .recordSpeed m speed => fun p => p.updateStats m fun s => { s with measuredSpeed := speed }
  | .setAvailability a => fun p => { p with availability := some a }
  | .setMedia media => fun p => p.setMedia media
  | .setSecure => fun p => { p with trust := .knownSecure }
  | .markProvisioned => fun p => { p with provisioned := true, trust := .knownInsecure }
  | .score profiles now m length => fun p => (p.score? profiles now length m).2
  | .select profiles now length usable => fun p => (p.select? profiles now length usable).2

theorem Change.allows_apply (c : Change) (s : PeerStore) {p : Peer} (hp : p.handle = h) :
    s.Allows p (c.apply s h p) := by
  cases c with
  | updateIdentity name media version => exact hp ▸ allows_introduce s p name media version
  | recordSend m ok => exact .of_kept s (p.kept_updateStats m _)
  | recordReceive m ok => exact .of_kept s (p.kept_updateStats m _)
  | recordSpeed m speed => exact .of_kept s (p.kept_updateStats m _)
  | setAvailability a => exact .of_kept s ⟨rfl, rfl, fun h => h⟩
  | setMedia media => exact .of_kept s (p.kept_setMedia media)
  | setSecure => exact .of_kept s ⟨rfl, rfl, fun h => h⟩
  | markProvisioned => exact .of_kept s ⟨rfl, rfl, fun h => h⟩
  | score profiles now m length => exact .of_kept s (p.kept_score? profiles now length m)
  | select profiles now length usable => exact .of_kept s (p.kept_selectFrom profiles now length _ none)

theorem Change.exists_withPeer (c : Change) (h : Handle) (s : PeerStore) :
    ∃ (α : Type) (g : α → Answer) (f : Peer → α × Peer),
      (c.act h).run s = (g <$> withPeer h f).run s ∧ ∀ p, (f p).2 = c.apply s h p := by
  cases c <;> exact ⟨_, _, _, rfl, fun _ => rfl⟩

/-- A change finds the store held, finds no peer with the handle, or is applied to this peer. -/
theorem run_change (c : Change) (h : Handle) (s : PeerStore) :
    (s.held = true ∧ (c.act h).run s = (.error (.lockTimeout "peer store"), s)) ∨
    (s.held = false ∧ s.ofHandle? h = none ∧ (c.act h).run s = (.error (.peerNotFound h), s)) ∨
    (s.held = false ∧ ∃ p a slots, s.ofHandle? h = some p ∧
      ChangedAt h (fun p => some (c.apply s h p)) s.slots slots ∧
      (c.act h).run s = (.ok a, { s with slots })) := by
  obtain ⟨α, g, f, hact, happly⟩ := c.exists_withPeer h s
  rw [hact, Act.run_map, withPeer]
  rcases run_onSlot h (fun p => ((f p).1, some (f p).2)) s with
    ⟨hheld, hrun⟩ | ⟨hfree, hnone, hrun⟩ | ⟨hfree, p, slots, hp, hat, hrun⟩
  · exact .inl ⟨hheld, by rw [hrun]; rfl⟩
  · exact .inr (.inl ⟨hfree, hnone, by rw [hrun]; rfl⟩)
  · simp only [happly] at hat
    exact .inr (.inr ⟨hfree, p, _, slots, hp, hat, by rw [hrun]; rfl⟩)

theorem outcome_change (c : Change) (h : Handle) (s : PeerStore) :
    s.Outcome h ((c.act h).run s) := by
  obtain hheld | hnone | ⟨hfree, p, a, slots, hp, hat, hrun⟩ := run_change c h s
  · exact .inl hheld
  · exact .inr (.inl hnone)
  · have hlive : s.ofHandle? h ≠ none := by simp [hp]
    exact .inr (.inr ⟨hfree, hlive, a, _, hrun, .changed hat fun p hp => c.allows_apply s hp⟩)

/-- The store takes a peer with this name at this address. -/
structure Fits (s : PeerStore) (name : String) (a : Address) : Prop where
  named : nameFault? name = none
  names : ∀ q ∈ s.peers, q.name ≠ name
  addresses : ∀ q ∈ s.peers, q.address ≠ a
  room : s.peers.length < s.capacity
  next : s.nextHandle.toNat + 1 < 2 ^ 32

/-- A peer that fits is added under the next handle, unless the store is held. Otherwise nothing
changes. -/
theorem run_add (name : String) (a : Address) (media : MediaSet) (s : PeerStore) :
    (s.held = false ∧ s.Fits name a ∧ (add name a media).run s = (.ok ⟨s.nextHandle⟩,
      { s with
        slots := place (.make ⟨s.nextHandle⟩ name a media s.localAddress) s.slots
        nextHandle := s.nextHandle + 1 })) ∨
    (¬ (s.held = false ∧ s.Fits name a) ∧
      ∃ e, e.isOfStore = true ∧ (add name a media).run s = (.error e, s)) := by
  have hnext := s.nextHandle.toNat_lt
  simp only [add, locked, Act.run]
  -- one split for each fault, in the order in which they are looked for
  split
  · next hfault =>
    exact .inr ⟨fun h => Option.some_ne_none _ (hfault.symm.trans h.2.named), _, rfl, rfl⟩
  next hnamed =>
  split
  · next hheld => exact .inr ⟨fun h => Bool.false_ne_true (h.1.symm.trans hheld), _, rfl, rfl⟩
  next hfree =>
  split
  · next htaken =>
    obtain ⟨q, hq, hsame⟩ : ∃ q ∈ s.peers, q.name = name := by simpa using htaken
    exact .inr ⟨fun h => h.2.names q hq hsame, _, rfl, rfl⟩
  next hnames =>
  split
  · next htaken =>
    obtain ⟨q, hq, hsame⟩ : ∃ q ∈ s.peers, q.address = a := by simpa using htaken
    exact .inr ⟨fun h => h.2.addresses q hq hsame, _, rfl, rfl⟩
  next haddresses =>
  split
  · next hfull => exact .inr ⟨fun h => absurd h.2.room (Nat.not_lt.2 hfull), _, rfl, rfl⟩
  next hroom =>
  split
  · next hlast => exact .inr ⟨fun h => absurd h.2.next (by omega), _, rfl, rfl⟩
  · exact .inl ⟨by simpa using hfree, ⟨hnamed, by simpa using hnames, by simpa using haddresses,
      Nat.lt_of_not_le hroom, by omega⟩, rfl⟩

/-- A peer is added under the next handle, or not at all. -/
theorem add_cases (name : String) (a : Address) (media : MediaSet) (s : PeerStore) :
    (∃ e, (add name a media).run s = (.error e, s) ∧ e.isIntake = false) ∨
    (∃ p : Peer, s.Admits p ∧ p.address = a ∧ (add name a media).run s = (.ok p.handle,
      { s with slots := place p s.slots, nextHandle := s.nextHandle + 1 })) := by
  obtain ⟨-, hfits, hrun⟩ | ⟨-, e, he, hrun⟩ := run_add name a media s
  · refine .inr ⟨.make ⟨s.nextHandle⟩ name a media s.localAddress, ?_, rfl, hrun⟩
    exact ⟨rfl, hfits.room, hfits.next, hfits.named, hfits.names, hfits.addresses, rfl,
      Peer.measured_setMedia _ media⟩
  · exact .inl ⟨e, hrun, Error.not_isIntake_of_isOfStore he⟩

theorem run_remove (h : Handle) (s : PeerStore) :
    (s.held = true ∧ (remove h).run s = (.error (.lockTimeout "peer store"), s)) ∨
    (s.held = false ∧ s.ofHandle? h = none ∧ (remove h).run s = (.error (.peerNotFound h), s)) ∨
    (s.held = false ∧ ∃ p slots, s.ofHandle? h = some p ∧
      ChangedAt h (fun _ => none) s.slots slots ∧
      (remove h).run s = (.ok p, { s with slots })) :=
  run_onSlot h _ s

theorem run_snapshot (h : Handle) (s : PeerStore) :
    (snapshot h).run s =
      (if s.held then .error (.lockTimeout "peer store")
        else match s.ofHandle? h with
          | none => .error (.peerNotFound h)
          | some p => .ok p, s) := by
  simp only [snapshot, locked, Act.run, ofHandle?]
  split
  · rfl
  · cases s.peers.find? (·.handle == h) <;> rfl

theorem run_query (q : Query) (s : PeerStore) :
    q.act.run s =
      (if s.held then .error (.lockTimeout "peer store")
        else .ok ((s.peers.find? q.test).map (·.handle)), s) := by
  have hact : q.act = find? q.test := by cases q <;> rfl
  rw [hact, run_find?]

theorem effect_of_step {c : Call} {r : Except Error Answer} (hs : Step s c r t) :
    Effect { s with held := c.contended } (issued? (c, r)) (removed? (c, r)) t := by
  obtain ⟨op, contended⟩ := c
  unfold Step at hs
  cases op with
  | add name a media =>
    rw [Op.act, Act.run_map] at hs
    rcases add_cases name a media { s with held := contended } with ⟨e, hrun, -⟩ | ⟨p, hp, -, hrun⟩
    · rw [hrun] at hs
      cases hs
      exact .nothing
    · rw [hrun] at hs
      cases hs
      exact .added hp
  | remove h =>
    rw [Op.act, Act.run_map] at hs
    rcases run_remove h { s with held := contended } with
      ⟨-, hrun⟩ | ⟨-, -, hrun⟩ | ⟨-, p, slots, -, hat, hrun⟩
    · rw [hrun] at hs
      cases hs
      exact .nothing
    · rw [hrun] at hs
      cases hs
      exact .nothing
    · rw [hrun] at hs
      cases hs
      exact .removed hat
  | change h c =>
    have hquiet : issued? (⟨.change h c, contended⟩, r) = none ∧
        removed? (⟨.change h c, contended⟩, r) = none := ⟨rfl, rfl⟩
    rw [hquiet.1, hquiet.2]
    rcases outcome_change c h { s with held := contended } with
      ⟨-, hrun⟩ | ⟨-, -, hrun⟩ | ⟨-, -, a, u, hrun, heff⟩
    · cases hs.symm.trans hrun
      exact .nothing
    · cases hs.symm.trans hrun
      exact .nothing
    · cases hs.symm.trans hrun
      exact heff
  | snapshot h =>
    rw [Op.act, Act.run_map, run_snapshot] at hs
    cases hs
    exact .nothing
  | find q =>
    rw [Op.act, Act.run_map, run_query] at hs
    cases hs
    exact .nothing

/-! ## What holds of the peers -/

theorem peers_changedAt {f : Peer → Option Peer} {slots : List (Option Peer)}
    (hat : ChangedAt h f s.slots slots) (ht : t.slots = slots) :
    ∃ p rest, p.handle = h ∧ s.peers.Perm (p :: rest) ∧ t.peers.Perm ((f p).toList ++ rest) := by
  obtain ⟨before, p, after, hs, -, hp, hslots⟩ := hat
  refine ⟨p, before.filterMap id ++ after.filterMap id, hp, ?_, ?_⟩
  · rw [peers, hs, List.filterMap_append, List.filterMap_cons]
    exact List.perm_middle
  · rw [peers, ht, hslots, List.filterMap_append, List.filterMap_cons]
    cases f p with
    | none => exact .refl _
    | some q => exact List.perm_middle

theorem peers_place {p : Peer} (ht : t.slots = place p s.slots) : t.peers.Perm (p :: s.peers) := by
  rw [peers, peers, ht]
  induction s.slots with
  | nil => exact .refl _
  | cons slot rest ih =>
    cases slot with
    | none => exact .refl _
    | some q => exact (ih.cons q).trans (.swap p q _)

theorem nameFault?_eq_none_iff (name : String) :
    nameFault? name = none ↔ 1 ≤ name.utf8ByteSize ∧ name.utf8ByteSize ≤ 32 := by
  unfold nameFault? maxNameLength
  split
  · simp; omega
  · split
    · simp; omega
    · simp; omega

/-- What holds of the peers of a node, at most so many. -/
structure WellFormed (a : Address) (capacity : Nat) (ps : List Peer) : Prop where
  apart : ps.Pairwise Peer.Apart
  within : ps.length ≤ capacity
  named : ∀ p ∈ ps, 1 ≤ p.name.utf8ByteSize ∧ p.name.utf8ByteSize ≤ 32
  related : ∀ p ∈ ps, p.relation = Multilink.relation a p.address
  measured : ∀ p ∈ ps, p.Measured

namespace WellFormed

variable {a : Address} {capacity : Nat} {p q : Peer} {ps ps' : List Peer}

theorem perm (hw : WellFormed a capacity ps) (hp : ps'.Perm ps) : WellFormed a capacity ps' where
  apart := (hp.pairwise_iff Peer.Apart.symm).2 hw.apart
  within := hp.length_eq ▸ hw.within
  named p hmem := hw.named p (hp.subset hmem)
  related p hmem := hw.related p (hp.subset hmem)
  measured p hmem := hw.measured p (hp.subset hmem)

theorem tail (hw : WellFormed a capacity (p :: ps)) : WellFormed a capacity ps where
  apart := hw.apart.of_cons
  within := Nat.le_of_succ_le hw.within
  named q hq := hw.named q (.tail _ hq)
  related q hq := hw.related q (.tail _ hq)
  measured q hq := hw.measured q (.tail _ hq)

theorem cons (hw : WellFormed a capacity ps) (hapart : ∀ q ∈ ps, Peer.Apart p q)
    (hroom : ps.length < capacity) (hnamed : nameFault? p.name = none)
    (hrelated : p.relation = Multilink.relation a p.address) (hmeasured : p.Measured) :
    WellFormed a capacity (p :: ps) where
  apart := List.pairwise_cons.2 ⟨hapart, hw.apart⟩
  within := hroom
  named := List.forall_mem_cons.2 ⟨(nameFault?_eq_none_iff _).1 hnamed, hw.named⟩
  related := List.forall_mem_cons.2 ⟨hrelated, hw.related⟩
  measured := List.forall_mem_cons.2 ⟨hmeasured, hw.measured⟩

/-- A change that the store allows. -/
theorem replace (hw : WellFormed a capacity (p :: ps)) (hs : s.peers.Perm (p :: ps))
    (hq : s.Allows p q) : WellFormed a capacity (q :: ps) := by
  have hapart := (List.pairwise_cons.1 hw.apart).1
  have hhandle : q.handle = p.handle := congrArg Identity.handle hq.identity
  have haddress : q.address = p.address := congrArg Identity.address hq.identity
  have hrelation : q.relation = p.relation := congrArg Identity.relation hq.identity
  have hnamed : nameFault? q.name = none := by
    rcases hq.name with hn | ⟨hn, -⟩
    · rw [hn, nameFault?_eq_none_iff]
      exact hw.named p (.head _)
    · exact hn
  refine hw.tail.cons (fun r hr => ?_) hw.within hnamed ?_ (hq.measured (hw.measured p (.head _)))
  · obtain ⟨h1, h2, h3⟩ := hapart r hr
    refine ⟨hhandle ▸ h1, ?_, haddress ▸ h3⟩
    rcases hq.name with hn | ⟨-, hn⟩
    · rwa [hn]
    · exact (hn r (hs.symm.subset (.tail _ hr)) h1.symm).symm
  · rw [hrelation, haddress]
    exact hw.related p (.head _)

end WellFormed

/-- What holds of a store after calls that have given out and removed these handles. -/
structure Inv (a : Address) (capacity : Nat) (given taken : List Handle) (s : PeerStore) :
    Prop where
  home : s.localAddress = a
  size : s.capacity = capacity
  wellFormed : WellFormed a capacity s.peers
  below : ∀ k ∈ given, k.raw.toNat < s.nextHandle.toNat
  once : given.Nodup
  live : ∀ p ∈ s.peers, p.handle ∈ given
  gone : ∀ k ∈ taken, k ∈ given ∧ ∀ p ∈ s.peers, p.handle ≠ k

variable {a : Address} {capacity : Nat} {given taken : List Handle} {i r : Option Handle}

/-- A step that adds nobody and gives out no handle. -/
theorem Inv.of_handles (hi : Inv a capacity given taken s) (hhome : t.localAddress = s.localAddress)
    (hsize : t.capacity = s.capacity) (hnext : t.nextHandle = s.nextHandle)
    (hw : WellFormed a capacity t.peers) (hsub : ∀ q ∈ t.peers, ∃ p ∈ s.peers, p.handle = q.handle) :
    Inv a capacity given taken t where
  home := hhome.trans hi.home
  size := hsize.trans hi.size
  wellFormed := hw
  below := hnext ▸ hi.below
  once := hi.once
  live q hq := by
    obtain ⟨p, hp, hhandle⟩ := hsub q hq
    exact hhandle ▸ hi.live p hp
  gone k hk := by
    refine ⟨(hi.gone k hk).1, fun q hq => ?_⟩
    obtain ⟨p, hp, hhandle⟩ := hsub q hq
    exact hhandle ▸ (hi.gone k hk).2 p hp

theorem Inv.changed {f : Peer → Peer} {slots : List (Option Peer)}
    (hi : Inv a capacity given taken s) (hat : ChangedAt h (fun p => some (f p)) s.slots slots)
    (hallowed : ∀ p, p.handle = h → s.Allows p (f p)) :
    Inv a capacity given taken { s with slots } := by
  obtain ⟨p, rest, hp, hs, ht⟩ := peers_changedAt (t := { s with slots }) hat rfl
  have hq := hallowed p hp
  have hw := ((hi.wellFormed.perm hs.symm).replace hs hq).perm ht
  refine hi.of_handles rfl rfl rfl hw fun q hmem => ?_
  rcases List.mem_cons.1 (ht.subset hmem) with rfl | hrest
  · exact ⟨p, hs.symm.subset (.head _), (congrArg Identity.handle hq.identity).symm⟩
  · exact ⟨q, hs.symm.subset (.tail _ hrest), rfl⟩

theorem Inv.removed {slots : List (Option Peer)} (hi : Inv a capacity given taken s)
    (hat : ChangedAt h (fun _ => none) s.slots slots) :
    Inv a capacity given (taken ++ [h]) { s with slots } := by
  obtain ⟨p, rest, rfl, hs, ht⟩ := peers_changedAt (t := { s with slots }) hat rfl
  have hw := hi.wellFormed.perm hs.symm
  have hkept : Inv a capacity given taken { s with slots } :=
    hi.of_handles rfl rfl rfl (hw.tail.perm ht) fun q hmem =>
      ⟨q, hs.symm.subset (.tail _ (ht.subset hmem)), rfl⟩
  refine { hkept with gone := fun k hk => ?_ }
  rcases List.mem_append.1 hk with hk | hk
  · exact hkept.gone k hk
  · rw [List.mem_singleton.1 hk]
    refine ⟨hi.live p (hs.symm.subset (.head _)), fun q hq => ?_⟩
    exact ((List.pairwise_cons.1 hw.apart).1 q (ht.subset hq)).1.symm

/-- The next handle is above all that were given out, so it is new. -/
theorem Inv.added {p : Peer} (hi : Inv a capacity given taken s) (hp : s.Admits p) :
    Inv a capacity (given ++ [p.handle]) taken
      { s with slots := place p s.slots, nextHandle := s.nextHandle + 1 } := by
  have ht := peers_place (p := p) (s := s)
    (t := { s with slots := place p s.slots, nextHandle := s.nextHandle + 1 }) rfl
  have hraw : p.handle.raw.toNat = s.nextHandle.toNat := by rw [hp.handle]
  have hnext : (s.nextHandle + 1).toNat = s.nextHandle.toNat + 1 := by
    rw [UInt32.toNat_add]
    exact Nat.mod_eq_of_lt hp.next
  have hnew : p.handle ∉ given := fun hmem => by
    have := hi.below _ hmem
    omega
  have hapart : ∀ q ∈ s.peers, Peer.Apart p q := fun q hq =>
    ⟨fun he => hnew (he ▸ hi.live q hq), (hp.name_free q hq).symm, (hp.address_free q hq).symm⟩
  have hrelated : p.relation = Multilink.relation a p.address := hi.home ▸ hp.related
  have hw := hi.wellFormed.cons hapart (hi.size ▸ hp.room) hp.named hrelated hp.measured
  refine
    { home := hi.home, size := hi.size, wellFormed := hw.perm ht, below := fun k hk => ?_,
      once := ?_, live := fun q hq => ?_, gone := fun k hk => ?_ }
  · rw [hnext]
    rcases List.mem_append.1 hk with hk | hk
    · exact Nat.lt_succ_of_lt (hi.below k hk)
    · rw [List.mem_singleton.1 hk, hraw]
      exact Nat.lt_succ_self _
  · rw [← List.concat_eq_append]
    exact hi.once.concat hnew
  · rcases List.mem_cons.1 (ht.subset hq) with rfl | hq
    · simp
    · exact List.mem_append_left _ (hi.live q hq)
  · obtain ⟨hissued, hgone⟩ := hi.gone k hk
    refine ⟨List.mem_append_left _ hissued, fun q hq => ?_⟩
    rcases List.mem_cons.1 (ht.subset hq) with rfl | hq
    · exact fun he => hnew (he ▸ hissued)
    · exact hgone q hq

theorem Inv.effect (hi : Inv a capacity given taken s) (he : Effect s i r t) :
    Inv a capacity (given ++ i.toList) (taken ++ r.toList) t := by
  cases he with
  | nothing => simpa using hi
  | changed hat hallowed => simpa using hi.changed hat hallowed
  | removed hat => simpa using hi.removed hat
  | added hp => simpa using hi.added hp

/-! ## Rows of calls -/

theorem inv_new (a : Address) (capacity : Nat) : Inv a capacity [] [] (new a capacity) := by
  have hnone : (new a capacity).peers = [] := rfl
  refine ⟨rfl, rfl, ?_, by simp, List.nodup_nil, by simp [hnone], by simp⟩
  rw [hnone]
  exact ⟨.nil, Nat.zero_le _, by simp, by simp, by simp⟩

theorem Inv.held (hi : Inv a capacity given taken s) (b : Bool) :
    Inv a capacity given taken { s with held := b } :=
  hi.of_handles rfl rfl rfl hi.wellFormed fun q hq => ⟨q, hq, rfl⟩

theorem filterMap_snoc {α β : Type} (f : α → Option β) (l : List α) (x : α) :
    (l ++ [x]).filterMap f = l.filterMap f ++ (f x).toList := by
  rw [List.filterMap_append, List.filterMap_cons]
  cases f x <;> rfl

theorem Inv.trace {tr : List (Call × Except Error Answer)} (h : Trace Step (new a capacity) tr s) :
    Inv a capacity (tr.filterMap issued?) (tr.filterMap removed?) s := by
  induction h with
  | nil => exact inv_new a capacity
  | snoc _ hs ih =>
    rw [filterMap_snoc, filterMap_snoc]
    exact (ih.held _).effect (effect_of_step hs)

/-- The peer that a call is for. -/
def Op.handle? : Op → Option Handle
  | .remove h | .change h _ | .snapshot h | .find (.handle h) => some h
  | _ => none

/-- What a call for a handle answers if no peer has it. -/
def Op.miss (h : Handle) : Op → Except Error Answer
  | .find _ => .ok (.found none)
  | _ => .error (.peerNotFound h)

theorem ofHandle?_eq_none (hs : ∀ p ∈ s.peers, p.handle ≠ h) : s.ofHandle? h = none := by
  rw [ofHandle?, List.find?_eq_none]
  simpa using hs

/-- A call for a handle that no peer has. -/
theorem step_miss {c : Call} {r : Except Error Answer} (hs : ∀ p ∈ s.peers, p.handle ≠ h)
    (hc : c.op.handle? = some h) (hstep : Step s c r t) :
    r = if c.contended then .error (.lockTimeout "peer store") else c.op.miss h := by
  obtain ⟨op, contended⟩ := c
  have hnone : ({ s with held := contended } : PeerStore).ofHandle? h = none := ofHandle?_eq_none hs
  unfold Step at hstep
  cases op with
  | add => cases hc
  | remove k =>
    cases hc
    rw [Op.act, Act.run_map] at hstep
    rcases run_remove h { s with held := contended } with
      ⟨rfl, hrun⟩ | ⟨rfl, -, hrun⟩ | ⟨-, p, slots, hp, -, -⟩
    · rw [hrun] at hstep
      cases hstep
      rfl
    · rw [hrun] at hstep
      cases hstep
      rfl
    · cases hnone.symm.trans hp
  | change k c =>
    cases hc
    rcases outcome_change c h { s with held := contended } with
      ⟨rfl, hrun⟩ | ⟨rfl, -, hrun⟩ | ⟨-, hsome, -⟩
    · cases hstep.symm.trans hrun
      rfl
    · cases hstep.symm.trans hrun
      rfl
    · exact absurd hnone hsome
  | snapshot k =>
    cases hc
    rw [Op.act, Act.run_map, run_snapshot, hnone] at hstep
    cases hstep
    cases contended <;> rfl
  | find q =>
    cases q with
    | handle k =>
      cases hc
      have hfound : ({ s with held := contended } : PeerStore).peers.find? (Query.test (.handle h)) = none :=
        hnone
      rw [Op.act, Act.run_map, run_query, hfound] at hstep
      cases hstep
      cases contended <;> rfl
    | address | name | relation => cases hc

/-- Whatever is looked up, only a live peer is found. -/
theorem live_of_found {q : Query} {contended : Bool} {k : Handle}
    (hstep : Step s ⟨.find q, contended⟩ (.ok (.found (some k))) t) :
    ∃ p ∈ s.peers, p.handle = k := by
  rw [Step, Op.act, Act.run_map, run_query] at hstep
  cases contended with
  | true => cases hstep
  | false =>
    have hfound : (s.peers.find? q.test).map (·.handle) = some k := by
      simpa [Except.map, peers] using congrArg Prod.fst hstep
    obtain ⟨p, hp, hk⟩ := Option.map_eq_some_iff.1 hfound
    exact ⟨p, List.mem_of_find?_eq_some hp, hk⟩

/-- After any calls on a new store, in which each may fail and each may find the store held, the live
peers are told apart by handle, name and address, there are no more of them than slots, and each is in
order. No handle is given out twice, and the handle of a removed peer is unknown from then on. -/
theorem trace_wellFormed {tr : List (Call × Except Error Answer)}
    (h : Trace Step (new a capacity) tr s) :
    WellFormed a capacity s.peers ∧ (tr.filterMap issued?).Nodup ∧
      ∀ k ∈ tr.filterMap removed?,
        (∀ c r t, c.op.handle? = some k → Step s c r t →
          r = if c.contended then .error (.lockTimeout "peer store") else c.op.miss k) ∧
        ∀ q contended t, ¬ Step s ⟨.find q, contended⟩ (.ok (.found (some k))) t := by
  have hi := Inv.trace h
  refine ⟨hi.wellFormed, hi.once, fun k hk => ?_⟩
  have hgone := (hi.gone k hk).2
  refine ⟨fun c r t hc hstep => step_miss hgone hc hstep, fun q contended t hstep => ?_⟩
  obtain ⟨p, hp, he⟩ := live_of_found hstep
  exact hgone p hp he

/-- A slot is used again, the handle is not. -/
theorem reused_slot :
    let a : Address := ⟨2, 0, 0, 0, 0, 1⟩
    let b : Address := ⟨2, 0, 0, 0, 0, 10⟩
    let calls (p : Peer) : List (Call × Except Error Answer) :=
      [(⟨.add "alpha" b (.ofBits 0x21), false⟩, .ok (.added ⟨1⟩)),
        (⟨.add "beta" a .empty, false⟩, .error (.outOfMemory 1)),
        (⟨.remove ⟨1⟩, false⟩, .ok (.removed p)),
        (⟨.add "alpha" b .empty, false⟩, .ok (.added ⟨2⟩)),
        (⟨.change ⟨2⟩ (.setMedia (.ofBits 0x20)), true⟩, .error (.lockTimeout "peer store"))]
    ∃ p s, Trace Step (new a 1) (calls p) s ∧ WellFormed a 1 s.peers ∧
      ∀ r t, Step s ⟨.snapshot ⟨1⟩, false⟩ r t → r = .error (.peerNotFound ⟨1⟩) := by
  intro a b calls
  have hrun : ∃ p s, Trace Step (new a 1) (calls p) s :=
    ⟨_, _, .snoc (.snoc (.snoc (.snoc (.snoc .nil rfl) rfl) rfl) rfl) rfl⟩
  obtain ⟨p, s, htrace⟩ := hrun
  obtain ⟨hw, -, hgone⟩ := trace_wellFormed htrace
  exact ⟨p, s, htrace, hw, fun r t => (hgone ⟨1⟩ (by simp [calls, removed?])).1 _ r t rfl⟩

end PeerStore

end Multilink
