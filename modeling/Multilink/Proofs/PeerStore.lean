import Multilink.Peer.Store
import Multilink.Proofs.Steps
/-!
# Looking peers up and changing one

Most operations of the store change the peer with a handle and nothing else. `PeerStore.ChangedAt`
says where such a change happens, and `PeerStore.run_onSlot` is what every such operation comes to.

A handle, an address and a relation stay with a peer as long as it lives. The store seen only as far
as these is `PeerStore.identities`; what is found under them depends on nothing else, so it survives
every operation that only counts or scores.
-/

namespace Multilink

namespace Error

/-- The errors of taking a frame in: it cannot be read or is damaged, a filter rejects it, the queue
refuses it. -/
def isIntake : Error → Bool
  | .frame _ | .filtered _ | .queue _ => true
  | _ => false

/-- The errors of reaching a peer: the peers are held, this one is not there, no medium leads to it,
every attempt failed. -/
def isReaching : Error → Bool
  | .lockTimeout _ | .peerNotFound _ | .noMedia _ | .sendFail _ _ => true
  | _ => false

/-- The errors of a call on the peer store: there is something wrong with a new peer, there is no room
for it, a peer is not there, the store is held. -/
def isOfStore : Error → Bool
  | .invalidPeer _ | .peerExists _ | .outOfMemory _ | .peerNotFound _ | .lockTimeout _ => true
  | _ => false

theorem not_isIntake_of_isReaching {e : Error} (h : e.isReaching = true) : e.isIntake = false := by
  cases e <;> first | rfl | cases h

theorem not_isIntake_of_isOfStore {e : Error} (h : e.isOfStore = true) : e.isIntake = false := by
  cases e <;> first | rfl | cases h

theorem not_isProtocol_of_isReaching {e : Error} (h : e.isReaching = true) :
    e.isProtocol = false := by
  cases e <;> first | rfl | cases h

end Error

/-! ## Identities -/

/-- What stays with a peer as long as it lives. -/
structure Identity where
  handle : Handle
  address : Address
  relation : UInt32
  deriving DecidableEq

def Peer.identity (p : Peer) : Identity :=
  ⟨p.handle, p.address, p.relation⟩

/-- Scoring a medium changes nothing of a peer but its statistics. -/
theorem Peer.exists_stats_score? (profiles : Profiles) (now : Micros) (length : Nat) (p : Peer)
    (m : Media) : ∃ stats, (p.score? profiles now length m).2 = { p with stats } := by
  unfold Peer.score?
  split
  · exact ⟨p.stats, rfl⟩
  · exact ⟨_, rfl⟩

theorem Peer.exists_selectFrom_cons (profiles : Profiles) (now : Micros) (length : Nat) (m : Media)
    (rest : List Media) (best : Option (Media × Score)) (p : Peer) :
    ∃ best', selectFrom profiles now length (m :: rest) best p =
      selectFrom profiles now length rest best' (p.score? profiles now length m).2 := by
  rw [selectFrom]
  split
  · next q hq => exact ⟨_, by rw [hq]⟩
  · next _ q hq => exact ⟨_, by rw [hq]⟩

theorem Peer.exists_stats_selectFrom (profiles : Profiles) (now : Micros) (length : Nat)
    (ms : List Media) (best : Option (Media × Score)) (p : Peer) :
    ∃ stats, (selectFrom profiles now length ms best p).2 = { p with stats } := by
  induction ms generalizing best p with
  | nil => exact ⟨p.stats, rfl⟩
  | cons m rest ih =>
    obtain ⟨best', hcons⟩ := exists_selectFrom_cons profiles now length m rest best p
    obtain ⟨stats, hscore⟩ := p.exists_stats_score? profiles now length m
    obtain ⟨stats', hrest⟩ := ih best' (p.score? profiles now length m).2
    exact ⟨stats', by rw [hcons, hrest, hscore]⟩

/-- Does a sender stand for the peer with this identity? -/
def Sender.isOf : Sender → Identity → Bool
  | .address a, i => i.address == a
  | .relation r, i => i.relation == r

namespace PeerStore

variable {α : Type}

def identities (s : PeerStore) : List Identity :=
  s.peers.map Peer.identity

/-- The peer that a sender stands for: the first one that it can be. -/
def ofSender? (sender : Sender) (s : PeerStore) : Option Peer :=
  s.peers.find? fun p => sender.isOf p.identity

/-- The live peer with a handle. -/
def ofHandle? (h : Handle) (s : PeerStore) : Option Peer :=
  s.peers.find? fun p => p.handle == h

theorem ofSender?_identity (sender : Sender) (s : PeerStore) :
    (s.ofSender? sender).map Peer.identity = s.identities.find? sender.isOf := by
  rw [ofSender?, identities, List.find?_map]
  rfl

theorem ofHandle?_identity (h : Handle) (s : PeerStore) :
    (s.ofHandle? h).map Peer.identity = s.identities.find? (·.handle == h) := by
  rw [ofHandle?, identities, List.find?_map]
  rfl

theorem run_find? (test : Peer → Bool) (s : PeerStore) :
    (find? test).run s =
      (if s.held then .error (.lockTimeout "peer store")
        else .ok ((s.peers.find? test).map (·.handle)), s) := by
  simp only [find?, locked, Act.run]
  split <;> rfl

/-! ## Changing one peer -/

/-- `f` was applied to the first peer with a handle. `none` stands for an empty slot. -/
def ChangedAt (h : Handle) (f : Peer → Option Peer) (slots slots' : List (Option Peer)) : Prop :=
  ∃ before p after, slots = before ++ some p :: after ∧ (∀ q, some q ∈ before → q.handle ≠ h) ∧
    p.handle = h ∧ slots' = before ++ f p :: after

theorem alter_none_iff (h : Handle) (f : Peer → α × Option Peer) (slots : List (Option Peer)) :
    alter h f slots = none ↔ ∀ p, some p ∈ slots → p.handle ≠ h := by
  induction slots with
  | nil => simp [alter]
  | cons slot rest ih =>
    cases slot with
    | none => simpa [alter] using ih
    | some q =>
      by_cases hq : q.handle = h
      · simp [alter, hq]
      · simpa [alter, hq] using ih

theorem alter_some {h : Handle} {f : Peer → α × Option Peer} {slots slots' : List (Option Peer)}
    {a : α} (ha : alter h f slots = some (a, slots')) :
    ∃ before p after, slots = before ++ some p :: after ∧
      (∀ q, some q ∈ before → q.handle ≠ h) ∧ p.handle = h ∧ a = (f p).1 ∧
      slots' = before ++ (f p).2 :: after := by
  induction slots generalizing slots' with
  | nil => cases ha
  | cons slot rest ih =>
    cases slot with
    | none =>
      simp only [alter, Option.map_eq_some_iff] at ha
      obtain ⟨⟨b, rest'⟩, hrest, hb⟩ := ha
      cases hb
      obtain ⟨before, p, after, rfl, hbefore, hp, hfst, rfl⟩ := ih hrest
      exact ⟨none :: before, p, after, rfl, fun q hq => hbefore q (by simpa using hq), hp, hfst, rfl⟩
    | some q =>
      by_cases hq : q.handle = h
      · simp only [alter, hq, if_true, Option.some.injEq, Prod.mk.injEq] at ha
        exact ⟨[], q, rest, rfl, by simp, hq, ha.1.symm, ha.2.symm⟩
      · simp only [alter, hq, if_false, Option.map_eq_some_iff] at ha
        obtain ⟨⟨b, rest'⟩, hrest, hb⟩ := ha
        cases hb
        obtain ⟨before, p, after, rfl, hbefore, hp, hfst, rfl⟩ := ih hrest
        refine ⟨some q :: before, p, after, rfl, fun r hr => ?_, hp, hfst, rfl⟩
        rcases List.mem_cons.1 hr with hr | hr
        · cases hr
          exact hq
        · exact hbefore r hr

theorem mem_peers_iff (s : PeerStore) (p : Peer) : p ∈ s.peers ↔ some p ∈ s.slots := by
  simp [peers]

theorem ofHandle?_eq_none_iff (h : Handle) (s : PeerStore) :
    s.ofHandle? h = none ↔ ∀ p, some p ∈ s.slots → p.handle ≠ h := by
  simp [ofHandle?, mem_peers_iff]

theorem ofHandle?_ne_none_iff {h : Handle} {s : PeerStore} :
    s.ofHandle? h ≠ none ↔ ∃ p ∈ s.peers, p.handle = h := by
  simp [ofHandle?_eq_none_iff, mem_peers_iff]

/-- The first peer with a handle is the one that is found under it. -/
theorem ofHandle?_of_split {h : Handle} {s : PeerStore} {before after : List (Option Peer)} {p : Peer}
    (hs : s.slots = before ++ some p :: after) (hbefore : ∀ q, some q ∈ before → q.handle ≠ h)
    (hp : p.handle = h) : s.ofHandle? h = some p := by
  have hnone : (before.filterMap id).find? (fun q => q.handle == h) = none := by
    rw [List.find?_eq_none]
    intro q hq
    simpa using hbefore q (by simpa using hq)
  rw [ofHandle?, peers, hs, List.filterMap_append, List.find?_append, hnone]
  simp [hp]

/-- What an operation on the peer with a handle comes to. -/
theorem run_onSlot (h : Handle) (f : Peer → α × Option Peer) (s : PeerStore) :
    (s.held = true ∧ (onSlot h f).run s = (.error (.lockTimeout "peer store"), s)) ∨
    (s.held = false ∧ s.ofHandle? h = none ∧ (onSlot h f).run s = (.error (.peerNotFound h), s)) ∨
    (s.held = false ∧ ∃ p slots', s.ofHandle? h = some p ∧
      ChangedAt h (fun p => (f p).2) s.slots slots' ∧
      (onSlot h f).run s = (.ok (f p).1, { s with slots := slots' })) := by
  cases hheld : s.held with
  | true => exact .inl ⟨rfl, by simp only [onSlot, locked, Act.run, hheld, if_true]⟩
  | false =>
    right
    cases halter : alter h f s.slots with
    | none =>
      refine .inl ⟨rfl, (ofHandle?_eq_none_iff h s).2 ((alter_none_iff h f _).1 halter), ?_⟩
      simp only [onSlot, locked, Act.run, hheld, halter, Bool.false_eq_true, if_false]
    | some out =>
      obtain ⟨a, slots'⟩ := out
      obtain ⟨before, p, after, hs, hbefore, hp, rfl, rfl⟩ := alter_some halter
      refine .inr ⟨rfl, p, _, ofHandle?_of_split hs hbefore hp,
        ⟨before, p, after, hs, hbefore, hp, rfl⟩, ?_⟩
      simp only [onSlot, locked, Act.run, hheld, halter, Bool.false_eq_true, if_false]

theorem run_update (h : Handle) (f : Peer → Peer) (s : PeerStore) :
    (s.held = true ∧ (update h f).run s = (.error (.lockTimeout "peer store"), s)) ∨
    (s.held = false ∧ s.ofHandle? h = none ∧ (update h f).run s = (.error (.peerNotFound h), s)) ∨
    (s.held = false ∧ ∃ p slots', s.ofHandle? h = some p ∧
      ChangedAt h (fun p => some (f p)) s.slots slots' ∧
      (update h f).run s = (.ok (), { s with slots := slots' })) :=
  run_onSlot h _ s

theorem failsWith_onSlot (h : Handle) (f : Peer → α × Option Peer) :
    Act.FailsWith (·.isReaching = true) (onSlot h f) := by
  intro s e he
  rcases run_onSlot h f s with ⟨-, hrun⟩ | ⟨-, -, hrun⟩ | ⟨-, p, slots', -, -, hrun⟩
  · rw [hrun] at he
    cases he
    rfl
  · rw [hrun] at he
    cases he
    rfl
  · rw [hrun] at he
    cases he

theorem failsWith_update (h : Handle) (f : Peer → Peer) :
    Act.FailsWith (·.isReaching = true) (update h f) :=
  failsWith_onSlot h _

theorem failsWith_updateIdentity (h : Handle) (name : Option String) (media : MediaSet)
    (version : Version) : Act.FailsWith (·.isReaching = true) (updateIdentity h name media version) :=
  fun s => failsWith_update h _ s

theorem ofHandle?_of_ofSender? {sender : Sender} {s : PeerStore} {p : Peer}
    (h : s.ofSender? sender = some p) : s.ofHandle? p.handle ≠ none := by
  intro hnone
  have hmem := List.mem_of_find?_eq_some h
  exact (ofHandle?_eq_none_iff _ _).1 hnone p ((mem_peers_iff _ _).1 hmem) rfl

/-! ## What counting and scoring leave alone -/

/-- Who is in the store, and can the store be looked at? -/
def roster (s : PeerStore) : List Identity × Bool :=
  (s.identities, s.held)

theorem identities_changedAt {h : Handle} {f : Peer → Peer} {s : PeerStore}
    {slots' : List (Option Peer)} (hf : ∀ p, (f p).identity = p.identity)
    (hc : ChangedAt h (fun p => some (f p)) s.slots slots') :
    ({ s with slots := slots' } : PeerStore).identities = s.identities := by
  obtain ⟨before, p, after, hs, -, -, rfl⟩ := hc
  simp [identities, peers, hs, hf]

theorem keeps_roster_withPeer {h : Handle} {f : Peer → α × Peer}
    (hf : ∀ p, (f p).2.identity = p.identity) : Act.Keeps roster (withPeer h f) := by
  intro s
  rcases run_onSlot h (fun p => ((f p).1, some (f p).2)) s with
    ⟨-, hrun⟩ | ⟨-, -, hrun⟩ | ⟨-, p, slots', -, hc, hrun⟩
  · rw [withPeer, hrun]
  · rw [withPeer, hrun]
  · rw [withPeer, hrun]
    exact Prod.ext (identities_changedAt hf hc) rfl

theorem keeps_roster_update {h : Handle} {f : Peer → Peer} (hf : ∀ p, (f p).identity = p.identity) :
    Act.Keeps roster (update h f) :=
  keeps_roster_withPeer hf

theorem identity_updateStats (m : Media) (f : LinkStats Score → LinkStats Score) (p : Peer) :
    (p.updateStats m f).identity = p.identity := rfl

theorem identity_selectFrom (profiles : Profiles) (now : Micros) (length : Nat) (ms : List Media)
    (best : Option (Media × Score)) (p : Peer) :
    (Peer.selectFrom profiles now length ms best p).2.identity = p.identity := by
  obtain ⟨stats, hselect⟩ := p.exists_stats_selectFrom profiles now length ms best
  rw [hselect]
  rfl

theorem keeps_roster_recordSend (h : Handle) (m : Media) (ok : Bool) :
    Act.Keeps roster (recordSend h m ok) :=
  keeps_roster_update fun p => identity_updateStats m _ p

theorem keeps_roster_recordReceive (h : Handle) (m : Media) (ok : Bool) :
    Act.Keeps roster (recordReceive h m ok) :=
  keeps_roster_update fun p => identity_updateStats m _ p

theorem identity_introduce (name : Option String) (media : MediaSet) (version : Version) (p : Peer) :
    (introduce name media version p).identity = p.identity := by
  unfold introduce
  cases media.isEmpty <;> rfl

theorem keeps_roster_updateIdentity (h : Handle) (name : Option String) (media : MediaSet)
    (version : Version) : Act.Keeps roster (updateIdentity h name media version) := fun s =>
  keeps_roster_update (fun p => identity_introduce _ media version p) s

theorem keeps_roster_setAvailability (h : Handle) (a : Availability) :
    Act.Keeps roster (setAvailability h a) :=
  keeps_roster_update fun _ => rfl

theorem keeps_roster_select (profiles : Profiles) (now : Micros) (h : Handle) (length : Nat)
    (usable : MediaSet) : Act.Keeps roster (select profiles now h length usable) :=
  keeps_roster_withPeer fun p => identity_selectFrom profiles now length _ none p

/-- Under a handle, stores with the same roster have the same address. -/
theorem ofHandle?_address_of_roster {s t : PeerStore} (h : t.roster = s.roster) (k : Handle) :
    (t.ofHandle? k).map (·.address) = (s.ofHandle? k).map (·.address) := by
  have hids : t.identities = s.identities := congrArg Prod.fst h
  have ht := congrArg (Option.map Identity.address) (ofHandle?_identity k t)
  have hs := congrArg (Option.map Identity.address) (ofHandle?_identity k s)
  rw [Option.map_map] at ht hs
  rw [hids, ← hs] at ht
  exact ht

/-- For a sender, stores with the same roster have the same handle. -/
theorem ofSender?_handle_of_roster {s t : PeerStore} (h : t.roster = s.roster) (sender : Sender) :
    (t.ofSender? sender).map (·.handle) = (s.ofSender? sender).map (·.handle) := by
  have hids : t.identities = s.identities := congrArg Prod.fst h
  have ht := congrArg (Option.map Identity.handle) (ofSender?_identity sender t)
  have hs := congrArg (Option.map Identity.handle) (ofSender?_identity sender s)
  rw [Option.map_map] at ht hs
  rw [hids, ← hs] at ht
  exact ht

/-- The store can be looked at and has a live peer with this handle. -/
def Has (h : Handle) (s : PeerStore) : Prop :=
  s.held = false ∧ s.ofHandle? h ≠ none

theorem Has.of_roster {h : Handle} {s t : PeerStore} (hs : s.Has h) (ht : t.roster = s.roster) :
    t.Has h := by
  have haddr := ofHandle?_address_of_roster ht h
  refine ⟨(congrArg Prod.snd ht).trans hs.1, fun hnone => hs.2 ?_⟩
  rw [hnone] at haddr
  exact Option.map_eq_none_iff.1 haddr.symm

theorem update_ok {h : Handle} {s : PeerStore} (hs : s.Has h) (f : Peer → Peer) :
    ∃ t, (update h f).run s = (.ok (), t) := by
  rcases run_update h f s with ⟨hheld, -⟩ | ⟨-, hnone, -⟩ | ⟨-, p, slots', -, -, hrun⟩
  · rw [hs.1] at hheld
    cases hheld
  · exact absurd hnone hs.2
  · exact ⟨_, hrun⟩

/-! ## Attribution -/

/-- The handle of the peer that a sender stands for; a sender that is not known gets the next
handle, if it is learned at all. -/
def attribution (sender : Sender) (s : PeerStore) : Handle :=
  match s.ofSender? sender with
  | some p => p.handle
  | none => ⟨s.nextHandle⟩

end PeerStore

end Multilink
