import Mathlib.Data.List.Pairwise
import Multilink.Proofs.Membership
/-!
# Looking peers up by what tells them apart

A lookup takes the first peer that fits. A handle, an address or a name fits one live peer at most, so
that it does not matter which slots the peers are in, and every lookup that finds a peer finds the same
one. A relation is no such key: two addresses can share it.

`PeerStore.lookups_agree` says so of every store that calls can lead to, says when another peer can be
added, and says that the lookups for other keys do not notice it.
-/

namespace Multilink

namespace PeerStore

variable {s t : PeerStore} {k : Handle} {p q : Peer} {ps : List Peer}
variable {a : Address} {capacity : Nat} {given taken : List Handle}

/-! ## Keys -/

theorem WellFormed.eq_of_not_apart (hw : WellFormed a capacity ps) (hp : p ∈ ps) (hq : q ∈ ps)
    (h : ¬ p.Apart q) : p = q := by
  refine Classical.byContradiction fun hne => h ?_
  have : Std.Symm Peer.Apart := ⟨fun _ _ => Peer.Apart.symm⟩
  exact hw.apart.forall hp hq hne

/-- A handle is that of one peer. -/
theorem WellFormed.eq_of_handle (hw : WellFormed a capacity ps) (hp : p ∈ ps) (hq : q ∈ ps)
    (he : p.handle = q.handle) : p = q :=
  hw.eq_of_not_apart hp hq fun h => h.1 he

namespace Query

/-- Does the query ask for what no two peers share? -/
def isKey : Query → Bool
  | .relation _ => false
  | _ => true

theorem not_apart {query : Query} (hkey : query.isKey = true) (hp : query.test p = true)
    (hq : query.test q = true) : ¬ p.Apart q := by
  intro hapart
  cases query with
  | handle h => exact hapart.1 ((beq_iff_eq.1 hp).trans (beq_iff_eq.1 hq).symm)
  | address b => exact hapart.2.2 ((beq_iff_eq.1 hp).trans (beq_iff_eq.1 hq).symm)
  | name n => exact hapart.2.1 ((beq_iff_eq.1 hp).trans (beq_iff_eq.1 hq).symm)
  | relation r => cases hkey

/-- The keys of a peer. -/
def keysOf (p : Peer) : List Query :=
  [.handle p.handle, .address p.address, .name p.name]

theorem isKey_of_mem_keysOf {query : Query} (h : query ∈ keysOf p) : query.isKey = true := by
  cases query with
  | relation r => simp [keysOf] at h
  | _ => rfl

theorem test_iff_mem_keysOf {query : Query} (hkey : query.isKey = true) (p : Peer) :
    query.test p = true ↔ query ∈ keysOf p := by
  cases query with
  | relation r => cases hkey
  | _ =>
    rw [test, beq_iff_eq, eq_comm]
    simp [keysOf]

end Query

/-- The peer that a scan for a key comes to is the only one that it can come to. -/
theorem WellFormed.find?_eq_some_iff (hw : WellFormed a capacity ps) {query : Query}
    (hkey : query.isKey = true) :
    ps.find? query.test = some p ↔ p ∈ ps ∧ query.test p = true := by
  constructor
  · intro hfound
    exact ⟨List.mem_of_find?_eq_some hfound, List.find?_some hfound⟩
  · rintro ⟨hp, htest⟩
    obtain ⟨q, hq⟩ := Option.isSome_iff_exists.1 (List.find?_isSome.2 ⟨p, hp, htest⟩)
    have hsame : q = p := hw.eq_of_not_apart (List.mem_of_find?_eq_some hq) hp
      (query.not_apart hkey (List.find?_some hq) htest)
    rw [hq, hsame]

theorem WellFormed.ofHandle?_eq_some_iff (hw : WellFormed a capacity s.peers) :
    s.ofHandle? k = some p ↔ p ∈ s.peers ∧ p.handle = k := by
  show s.peers.find? (Query.test (.handle k)) = some p ↔ _
  rw [hw.find?_eq_some_iff rfl, Query.test, beq_iff_eq]

/-! ## Lookups -/

/-- The only live peer with a handle. -/
structure Sole (s : PeerStore) (k : Handle) (p : Peer) : Prop where
  live : p ∈ s.peers
  handle : p.handle = k
  only : ∀ q ∈ s.peers, q.handle = k → q = p

theorem WellFormed.sole_iff (hw : WellFormed a capacity s.peers) :
    s.Sole k p ↔ p ∈ s.peers ∧ p.handle = k :=
  ⟨fun h => ⟨h.live, h.handle⟩, fun ⟨hp, hk⟩ =>
    ⟨hp, hk, fun _ hq hqk => hw.eq_of_handle hq hp (hqk.trans hk.symm)⟩⟩

/-- Lookups for keys, and calls for handles, agree on which live peer they are about. -/
structure Agrees (s : PeerStore) : Prop where
  /-- A handle is found exactly if the one peer with it has what is asked for. Lookups leave the store
  as it is, and find nothing while it is held. -/
  found : ∀ (query : Query) (k : Handle) (contended : Bool) (t : PeerStore), query.isKey = true →
    (Step s ⟨.find query, contended⟩ (.ok (.found (some k))) t ↔
      contended = false ∧ t = { s with held := false } ∧ ∃ p, s.Sole k p ∧ query.test p = true)
  /-- Nothing is found exactly if no peer has what is asked for. -/
  missed : ∀ (query : Query) (t : PeerStore), query.isKey = true →
    (Step s ⟨.find query, false⟩ (.ok (.found none)) t ↔
      t = { s with held := false } ∧ ∀ p ∈ s.peers, query.test p = false)
  /-- A look at the peer with a handle is a look at this same peer. -/
  seen : ∀ (k : Handle) (p : Peer), s.Sole k p →
    Step s ⟨.snapshot k, false⟩ (.ok (.peer p)) { s with held := false }
  /-- So is a look at it that may change it. -/
  reached : ∀ (k : Handle) (p : Peer), s.Sole k p → ∀ (α : Type) (f : Peer → α × Peer),
    ((withPeer k f).run { s with held := false }).1 = .ok (f p).1

/-- What a lookup answers. -/
theorem step_find_iff {query : Query} {contended : Bool} {found : Option Handle} :
    Step s ⟨.find query, contended⟩ (.ok (.found found)) t ↔
      contended = false ∧ t = { s with held := false } ∧
        (s.peers.find? query.test).map (·.handle) = found := by
  rw [Step, Op.act, Act.run_map, run_query]
  cases contended with
  | true => simp [Except.map]
  | false => simp [Except.map, peers, and_comm, eq_comm]

theorem exists_step_find_iff {query : Query} {r : Except Error Answer} :
    (∃ u, Step s ⟨.find query, false⟩ r u) ↔
      r = .ok (.found ((s.peers.find? query.test).map (·.handle))) := by
  simp [Step, Op.act, Act.run_map, run_query, Except.map, peers, eq_comm]

theorem WellFormed.agrees (hw : WellFormed a capacity s.peers) : s.Agrees where
  found query k contended t hkey := by
    rw [step_find_iff, Option.map_eq_some_iff]
    refine and_congr_right fun _ => and_congr_right fun _ => exists_congr fun p => ?_
    rw [hw.find?_eq_some_iff hkey, hw.sole_iff, and_right_comm]
  missed query t hkey := by
    rw [step_find_iff, Option.map_eq_none_iff, List.find?_eq_none]
    simp
  seen k p h := by
    have hfound : ({ s with held := false } : PeerStore).ofHandle? k = some p :=
      hw.ofHandle?_eq_some_iff.2 ⟨h.live, h.handle⟩
    rw [Step, Op.act, Act.run_map, run_snapshot, hfound]
    rfl
  reached k p h α f := by
    have hfound : ({ s with held := false } : PeerStore).ofHandle? k = some p :=
      hw.ofHandle?_eq_some_iff.2 ⟨h.live, h.handle⟩
    obtain ⟨hheld, -⟩ | ⟨-, hnone, -⟩ | ⟨-, q, slots, hq, -, hrun⟩ :=
      run_onSlot k (fun p => ((f p).1, some (f p).2)) { s with held := false }
    · cases hheld
    · cases hfound.symm.trans hnone
    · cases hfound.symm.trans hq
      rw [withPeer, hrun]

/-! ## Another peer -/

/-- The store with a peer added. -/
def enrolled (s : PeerStore) (p : Peer) : PeerStore :=
  { s with held := false, slots := place p s.slots, nextHandle := s.nextHandle + 1 }

theorem perm_enrolled (s : PeerStore) (p : Peer) : (s.enrolled p).peers.Perm (p :: s.peers) :=
  peers_place rfl

theorem fits_held_iff {name : String} {b : Address} (held : Bool) :
    Fits { s with held } name b ↔ s.Fits name b :=
  ⟨fun h => ⟨h.named, h.names, h.addresses, h.room, h.next⟩,
    fun h => ⟨h.named, h.names, h.addresses, h.room, h.next⟩⟩

theorem step_add_iff {name : String} {b : Address} {media : MediaSet} :
    Step s ⟨.add name b media, false⟩ (.ok (.added k)) t ↔
      s.Fits name b ∧ k = ⟨s.nextHandle⟩ ∧
        t = s.enrolled (.make ⟨s.nextHandle⟩ name b media s.localAddress) := by
  rw [Step, Op.act, Act.run_map]
  obtain ⟨-, hfits, hrun⟩ | ⟨hnot, e, -, hrun⟩ := run_add name b media { s with held := false }
  · rw [fits_held_iff] at hfits
    rw [hrun]
    simp [Except.map, hfits, enrolled, eq_comm]
  · rw [fits_held_iff] at hnot
    rw [hrun]
    exact iff_of_false (by simp [Except.map]) fun hadded => hnot ⟨rfl, hadded.1⟩

/-- A lookup for a key of another peer does not notice the new one. -/
theorem find?_enrolled (hw : WellFormed a capacity s.peers)
    (ht : WellFormed a capacity (s.enrolled p).peers) {query : Query} (hkey : query.isKey = true)
    (hother : query ∉ Query.keysOf p) :
    (s.enrolled p).peers.find? query.test = s.peers.find? query.test := by
  refine Option.ext fun q => ?_
  rw [ht.find?_eq_some_iff hkey, hw.find?_eq_some_iff hkey, (perm_enrolled s p).mem_iff]
  refine and_congr_left fun hq => ?_
  have hne : q ≠ p := fun he => hother ((query.test_iff_mem_keysOf hkey p).1 (he ▸ hq))
  rw [List.mem_cons, or_iff_right hne]

/-- A peer has joined the others under these three keys. -/
structure Joined (s : PeerStore) (k : Handle) (b : Address) (name : String) (t : PeerStore) :
    Prop where
  found : ∀ query ∈ [.handle k, .address b, .name name],
    Step t ⟨.find query, false⟩ (.ok (.found (some k))) t
  /-- Lookups for other keys answer what they answered before. -/
  others : ∀ query : Query, query.isKey = true → query ∉ [.handle k, .address b, .name name] →
    ∀ r, (∃ u, Step t ⟨.find query, false⟩ r u) ↔ ∃ u, Step s ⟨.find query, false⟩ r u
  /-- Other handles name the peers that they named before. -/
  same : ∀ j p, j ≠ k → (t.Sole j p ↔ s.Sole j p)

theorem joined_enrolled (hw : WellFormed a capacity s.peers)
    (ht : WellFormed a capacity (s.enrolled p).peers) :
    s.Joined p.handle p.address p.name (s.enrolled p) where
  found query hquery := by
    have hkey := Query.isKey_of_mem_keysOf hquery
    have hlive : p ∈ (s.enrolled p).peers := (perm_enrolled s p).symm.subset (.head _)
    exact (ht.agrees.found query p.handle false _ hkey).2
      ⟨rfl, rfl, p, ht.sole_iff.2 ⟨hlive, rfl⟩, (query.test_iff_mem_keysOf hkey p).2 hquery⟩
  others query hkey hother r := by
    rw [exists_step_find_iff, exists_step_find_iff, find?_enrolled hw ht hkey hother]
  same j q hj := by
    have hne (hq : q.handle = j) : q ≠ p := fun he => hj (hq.symm.trans (congrArg Peer.handle he))
    rw [ht.sole_iff, hw.sole_iff, (perm_enrolled s p).mem_iff, List.mem_cons]
    exact and_congr_left fun hq => or_iff_right (hne hq)

/-- In every store that calls lead to, a lookup for a handle, an address or a name finds a handle
exactly if the one live peer with it has what is asked for, and this is the peer that a call for the handle
reaches. Another peer is added exactly if its name will do, nobody has its name or its address, and there
is a slot and a handle for it. Then it is found under all three, and whatever is looked up for any other
peer is found as before. -/
theorem lookups_agree {tr : List (Call × Except Error Answer)}
    (h : Trace Step (new a capacity) tr s) :
    s.Agrees ∧ ∀ (name : String) (b : Address) (media : MediaSet),
      ((∃ k t, Step s ⟨.add name b media, false⟩ (.ok (.added k)) t) ↔
        (1 ≤ name.utf8ByteSize ∧ name.utf8ByteSize ≤ 32) ∧
          (∀ p ∈ s.peers, p.name ≠ name ∧ p.address ≠ b) ∧ s.peers.length < capacity ∧
          s.nextHandle.toNat + 1 < 2 ^ 32) ∧
      ∀ k t, Step s ⟨.add name b media, false⟩ (.ok (.added k)) t → s.Joined k b name t := by
  have hi := Inv.trace h
  refine ⟨hi.wellFormed.agrees, fun name b media => ⟨?_, fun k t hstep => ?_⟩⟩
  · simp only [step_add_iff, exists_and_left, exists_eq, and_true]
    rw [← nameFault?_eq_none_iff, ← hi.size]
    exact ⟨fun ⟨hn, hnames, hb, hroom, hnext⟩ => ⟨hn, fun p hp => ⟨hnames p hp, hb p hp⟩, hroom, hnext⟩,
      fun ⟨hn, hfree, hroom, hnext⟩ =>
        ⟨hn, fun p hp => (hfree p hp).1, fun p hp => (hfree p hp).2, hroom, hnext⟩⟩
  · have ht := (Inv.trace (h.snoc hstep)).wellFormed
    obtain ⟨-, rfl, rfl⟩ := step_add_iff.1 hstep
    exact joined_enrolled hi.wellFormed ht

/-- A peer joins another one in a slot that a third has left, and takes over the name and the address of
this one. There is no slot for one more. -/
theorem joined_in_used_slot :
    let a : Address := ⟨2, 0, 0, 0, 0, 1⟩
    let b : Address := ⟨2, 0, 0, 0, 0, 10⟩
    let alpha := Peer.make ⟨1⟩ "alpha" b (.ofBits 0x21) a
    let beta := Peer.make ⟨2⟩ "beta" ⟨2, 0, 0, 0, 0, 11⟩ .empty a
    let calls : List (Call × Except Error Answer) :=
      [(⟨.add "alpha" b (.ofBits 0x21), false⟩, .ok (.added ⟨1⟩)),
        (⟨.add "beta" beta.address .empty, false⟩, .ok (.added ⟨2⟩)),
        (⟨.remove ⟨1⟩, false⟩, .ok (.removed alpha))]
    ∃ s t, Trace Step (new a 2) calls s ∧ s.Sole ⟨2⟩ beta ∧
      Step s ⟨.add "alpha" b .empty, false⟩ (.ok (.added ⟨3⟩)) t ∧ s.Joined ⟨3⟩ b "alpha" t ∧
      ¬ ∃ k u, Step t ⟨.add "gamma" a .empty, false⟩ (.ok (.added k)) u := by
  intro a b alpha beta calls
  let s : PeerStore := { new a 2 with slots := [none, some beta], nextHandle := 3 }
  let t : PeerStore := s.enrolled (.make ⟨3⟩ "alpha" b .empty a)
  have hone : Step (new a 2) ⟨.add "alpha" b (.ofBits 0x21), false⟩ (.ok (.added ⟨1⟩))
      { new a 2 with slots := [some alpha], nextHandle := 2 } := rfl
  have htwo : Step { new a 2 with slots := [some alpha], nextHandle := 2 }
      ⟨.add "beta" beta.address .empty, false⟩ (.ok (.added ⟨2⟩))
      { new a 2 with slots := [some alpha, some beta], nextHandle := 3 } := rfl
  have hthree : Step { new a 2 with slots := [some alpha, some beta], nextHandle := 3 }
      ⟨.remove ⟨1⟩, false⟩ (.ok (.removed alpha)) s := rfl
  have htrace : Trace Step (new a 2) calls s := .snoc (.snoc (.snoc .nil hone) htwo) hthree
  have hfound : Step s ⟨.find (.name "beta"), false⟩ (.ok (.found (some ⟨2⟩))) s := rfl
  have hadd : Step s ⟨.add "alpha" b .empty, false⟩ (.ok (.added ⟨3⟩)) t := rfl
  obtain ⟨hagrees, hjoins⟩ := lookups_agree htrace
  obtain ⟨-, -, p, hsole, -⟩ := (hagrees.found (.name "beta") ⟨2⟩ false s rfl).1 hfound
  obtain rfl : beta = p := hsole.only beta (.head _) rfl
  refine ⟨s, t, htrace, hsole, hadd, (hjoins _ _ _).2 _ _ hadd, fun hmore => ?_⟩
  obtain ⟨-, -, hroom, -⟩ := ((lookups_agree (htrace.snoc hadd)).2 "gamma" a .empty).1.1 hmore
  exact Nat.lt_irrefl 2 hroom

end PeerStore

end Multilink
