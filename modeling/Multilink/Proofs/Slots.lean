import Multilink.Proofs.Attempts
/-!
# One slot at a time

A call that fails leaves the store exactly as it was, handle counter and slots included. A call that
succeeds writes one slot at most: the first one of the handle that it is for, or the first empty one for a
new peer. `PeerStore.errors_change_nothing` says so of every store, also of one that no calls lead to.
-/

namespace Multilink

namespace PeerStore

/-! ## Slots by their number -/

/-- Slots that differ in one place at most: there is `new` where `old` was. A slot that has not been used
yet is empty. -/
structure Rewritten (i : Nat) (old new : Option Peer) (slots slots' : List (Option Peer)) : Prop where
  before : slots[i]?.join = old
  after : slots'[i]?.join = new
  others : ∀ j, j ≠ i → slots'[j]?.join = slots[j]?.join

variable {s t u : PeerStore} {h : Handle} {slots : List (Option Peer)}

namespace Rewritten

variable {i : Nat} {old new : Option Peer} {slots' : List (Option Peer)}

theorem head (old new : Option Peer) (rest : List (Option Peer)) :
    Rewritten 0 old new (old :: rest) (new :: rest) where
  before := rfl
  after := rfl
  others
    | 0, h => absurd rfl h
    | _ + 1, _ => rfl

theorem fresh (new : Option Peer) : Rewritten 0 none new [] [new] where
  before := rfl
  after := rfl
  others
    | 0, h => absurd rfl h
    | _ + 1, _ => rfl

theorem cons (h : Rewritten i old new slots slots') (slot : Option Peer) :
    Rewritten (i + 1) old new (slot :: slots) (slot :: slots') where
  before := h.before
  after := h.after
  others
    | 0, _ => rfl
    | j + 1, hj => h.others j fun he => hj (congrArg Nat.succ he)

theorem append (h : Rewritten i old new slots slots') (before : List (Option Peer)) :
    Rewritten (before.length + i) old new (before ++ slots) (before ++ slots') := by
  induction before with
  | nil => simpa using h
  | cons slot rest ih =>
    rw [List.length_cons, Nat.add_right_comm]
    exact ih.cons slot

end Rewritten

/-- The handle of the peer in a slot. An empty slot has none. -/
def owner? (s : PeerStore) (i : Nat) : Option Handle :=
  s.slots[i]?.join.map (·.handle)

/-- There is `new` in slot `i` now, where `old` was. It is the first slot with this owner, or the first
without one, and nothing but it and the handle counter has changed. -/
structure Wrote (s : PeerStore) (i : Nat) (old new : Option Peer) (t : PeerStore) : Prop where
  slots : Rewritten i old new s.slots t.slots
  first : ∀ j < i, s.owner? j ≠ old.map (·.handle)
  rest : t = { s with slots := t.slots, nextHandle := t.nextHandle }

theorem exists_wrote_place (s : PeerStore) (p : Peer) (next : UInt32) :
    ∃ i, s.Wrote i none (some p) { s with slots := place p s.slots, nextHandle := next } := by
  suffices h : ∀ slots, ∃ i, Rewritten i none (some p) slots (place p slots) ∧
      ∀ j < i, slots[j]?.join ≠ none by
    obtain ⟨i, hi, hfirst⟩ := h s.slots
    exact ⟨i, hi, fun j hj he => hfirst j hj (Option.map_eq_none_iff.1 he), rfl⟩
  intro slots
  induction slots with
  | nil => exact ⟨0, .fresh _, nofun⟩
  | cons slot rest ih =>
    cases slot with
    | none => exact ⟨0, .head none _ rest, nofun⟩
    | some q =>
      obtain ⟨i, hi, hfirst⟩ := ih
      refine ⟨i + 1, hi.cons (some q), fun j hj => ?_⟩
      cases j with
      | zero => exact Option.some_ne_none q
      | succ j => exact hfirst j (Nat.lt_of_succ_lt_succ hj)

theorem ChangedAt.exists_wrote {f : Peer → Option Peer} {p : Peer} (hat : ChangedAt h f s.slots slots)
    (hp : s.ofHandle? h = some p) : ∃ i, s.Wrote i (some p) (f p) { s with slots } := by
  obtain ⟨before, q, after, hs, hbefore, hq, rfl⟩ := hat
  obtain rfl : q = p := Option.some.inj ((ofHandle?_of_split hs hbefore hq).symm.trans hp)
  refine ⟨before.length, ?_, fun j hj he => ?_, rfl⟩
  · rw [hs]
    exact (Rewritten.head _ _ after).append before
  · rw [owner?, hs, List.getElem?_append_left hj] at he
    obtain ⟨r, hr, hhandle⟩ := Option.map_eq_some_iff.1 he
    rw [Option.join_eq_some_iff] at hr
    exact hbefore r (List.mem_of_getElem? hr) (hhandle.trans hq)

/-! ## What a call leaves behind -/

/-- A step on the store fails with an error of the store and leaves all of it as it was, or it succeeds and
does this. -/
inductive Settled {α : Type} (s : PeerStore) (effect : α → PeerStore → Prop) :
    Except Error α × PeerStore → Prop
  | failed {e : Error} (error : e.isOfStore = true) : Settled s effect (.error e, s)
  | done {x : α} {t : PeerStore} (did : effect x t) : Settled s effect (.ok x, t)

theorem Settled.map {α β : Type} {effect : α → PeerStore → Prop} {effect' : β → PeerStore → Prop}
    {x : Act PeerStore α} (h : s.Settled effect (x.run s)) (g : α → β)
    (hg : ∀ a t, effect a t → effect' (g a) t) : s.Settled effect' ((g <$> x).run s) := by
  rw [Act.run_map]
  generalize x.run s = out at h ⊢
  cases h with
  | failed he => exact .failed he
  | done hdid => exact .done (hg _ _ hdid)

/-- What a call leaves behind that succeeds. -/
inductive Writes (s : PeerStore) : Op → Answer → PeerStore → Prop
  | add {name : String} {b : Address} {media : MediaSet} {i : Nat} {t : PeerStore}
      (wrote : s.Wrote i none (some (.make ⟨s.nextHandle⟩ name b media s.localAddress)) t)
      (next : t.nextHandle = s.nextHandle + 1) :
      Writes s (.add name b media) (.added ⟨s.nextHandle⟩) t
  | remove {p : Peer} {i : Nat} {t : PeerStore} (wrote : s.Wrote i (some p) none t)
      (next : t.nextHandle = s.nextHandle) : Writes s (.remove p.handle) (.removed p) t
  | change {c : Change} {answer : Answer} {p : Peer} {i : Nat} {t : PeerStore}
      (wrote : s.Wrote i (some p) (some (c.apply s p.handle p)) t)
      (next : t.nextHandle = s.nextHandle) : Writes s (.change p.handle c) answer t
  | snapshot {h : Handle} {p : Peer} : Writes s (.snapshot h) (.peer p) s
  | find {query : Query} {found : Option Handle} : Writes s (.find query) (.found found) s

/-- Whatever is done to the peer with a handle, it is done to the first slot with this handle. -/
theorem settled_onSlot {α : Type} (h : Handle) (f : Peer → α × Option Peer) (s : PeerStore) :
    s.Settled (fun x t => ∃ i p, p.handle = h ∧ x = (f p).1 ∧ s.Wrote i (some p) (f p).2 t ∧
      t.nextHandle = s.nextHandle) ((onSlot h f).run s) := by
  rcases run_onSlot h f s with ⟨-, hrun⟩ | ⟨-, -, hrun⟩ | ⟨-, p, slots, hp, hat, hrun⟩
  · rw [hrun]
    exact .failed rfl
  · rw [hrun]
    exact .failed rfl
  · obtain ⟨i, hwrote⟩ := hat.exists_wrote hp
    have hhandle : p.handle = h := by simpa using List.find?_some hp
    rw [hrun]
    exact .done ⟨i, p, hhandle, rfl, hwrote, rfl⟩

theorem settled_op (op : Op) (s : PeerStore) : s.Settled (s.Writes op) (op.act.run s) := by
  cases op with
  | add name b media =>
    rw [Op.act, Act.run_map]
    obtain ⟨-, -, hrun⟩ | ⟨-, e, he, hrun⟩ := run_add name b media s
    · obtain ⟨i, hwrote⟩ := s.exists_wrote_place (.make ⟨s.nextHandle⟩ name b media s.localAddress)
        (s.nextHandle + 1)
      rw [hrun]
      exact .done (.add hwrote rfl)
    · rw [hrun]
      exact .failed he
  | remove h =>
    refine (settled_onSlot h (fun p => (p, none)) s).map Answer.removed ?_
    rintro _ t ⟨i, p, rfl, rfl, hwrote, hnext⟩
    exact .remove hwrote hnext
  | change h c =>
    -- a rename is judged by the store as it is now, so the change depends on the store
    obtain ⟨α, g, f, hact, happly⟩ := c.exists_withPeer h s
    rw [Op.act, hact]
    refine (settled_onSlot h (fun p => ((f p).1, some (f p).2)) s).map g ?_
    rintro _ t ⟨i, p, rfl, rfl, hwrote, hnext⟩
    exact .change (happly p ▸ hwrote) hnext
  | snapshot h =>
    rw [Op.act, Act.run_map, run_snapshot]
    split
    · exact .failed rfl
    · cases s.ofHandle? h with
      | none => exact .failed rfl
      | some p => exact .done .snapshot
  | find query =>
    rw [Op.act, Act.run_map, run_query]
    split
    · exact .failed rfl
    · exact .done .find

/-! ## While the store is held -/

theorem run_hold {k : Handle} (hrun : (hold k).run s = (.ok (), u)) :
    s.held = false ∧ u = { s with held := true } := by
  rw [hold, Act.run_bind, run_snapshot] at hrun
  cases hheld : s.held with
  | true => simp [hheld] at hrun
  | false =>
    cases hp : s.ofHandle? k with
    | none => simp [hheld, hp] at hrun
    | some p => simpa [hheld, hp, eq_comm] using hrun

theorem run_locked_held {α : Type} (held : s.held = true) (x : Act PeerStore α) :
    (locked x).run s = (.error (.lockTimeout "peer store"), s) :=
  if_pos held

/-- What is wrong with the name that a call brings. This is looked for before the store is locked. -/
def Op.fault? : Op → Option String
  | .add name _ _ => nameFault? name
  | _ => none

theorem run_op_held (held : s.held = true) (op : Op) :
    op.act.run s = (.error (op.fault?.elim (.lockTimeout "peer store") .invalidPeer), s) := by
  cases op with
  | add name b media =>
    have hadd : (add name b media).run s =
        (.error ((nameFault? name).elim (.lockTimeout "peer store") .invalidPeer), s) := by
      simp only [add, Act.run]
      cases nameFault? name with
      | none => exact run_locked_held held _
      | some fault => rfl
    rw [Op.act, Act.run_map, hadd]
    rfl
  | remove h =>
    have hremove : (remove h).run s = (.error (.lockTimeout "peer store"), s) := run_locked_held held _
    rw [Op.act, Act.run_map, hremove]
    rfl
  | change h c =>
    obtain ⟨α, g, f, hact, -⟩ := c.exists_withPeer h s
    rw [Op.act, hact, Act.run_map, run_withPeer_held held]
    rfl
  | snapshot h =>
    rw [Op.act, Act.run_map, run_snapshot, if_pos held]
    rfl
  | find query =>
    rw [Op.act, Act.run_map, run_query, if_pos held]
    rfl

/-- On every store, a call that fails leaves all of it as it was, and a call that succeeds writes the slot of
its peer at most. The same goes for any other change of a peer. While an activity holds the store, every
call fails, and afterwards the store is what it was before. -/
theorem errors_change_nothing (s : PeerStore) :
    (∀ op : Op, s.Settled (s.Writes op) (op.act.run s)) ∧
    (∀ (α : Type) (h : Handle) (f : Peer → α × Peer),
      s.Settled (fun x t => ∃ i p, p.handle = h ∧ x = (f p).1 ∧ s.Wrote i (some p) (some (f p).2) t ∧
        t.nextHandle = s.nextHandle) ((withPeer h f).run s)) ∧
    ∀ (k : Handle) (u : PeerStore), (hold k).run s = (.ok (), u) →
      (∀ op : Op,
        op.act.run u = (.error (op.fault?.elim (.lockTimeout "peer store") .invalidPeer), u)) ∧
      (∀ (α : Type) (h : Handle) (f : Peer → α × Peer),
        (withPeer h f).run u = (.error (.lockTimeout "peer store"), u)) ∧
      release.run u = (.ok (), s) := by
  refine ⟨fun op => settled_op op s, fun α h f =>
    settled_onSlot h (fun p => ((f p).1, some (f p).2)) s, fun k u hrun => ?_⟩
  obtain ⟨hfree, rfl⟩ := run_hold hrun
  refine ⟨run_op_held rfl, fun α h f => run_withPeer_held rfl f, ?_⟩
  rw [release, Act.run_modify, ← hfree]

/-- The last handle but one goes to a peer in the empty slot, and the last one to nobody. -/
theorem last_handle :
    let a : Address := ⟨2, 0, 0, 0, 0, 1⟩
    let beta := Peer.make ⟨7⟩ "beta" ⟨2, 0, 0, 0, 0, 10⟩ .empty a
    let gamma := Peer.make ⟨0xFFFFFFFE⟩ "gamma" ⟨2, 0, 0, 0, 0, 11⟩ .empty a
    let s : PeerStore := { new a 3 with slots := [none, some beta], nextHandle := 0xFFFFFFFE }
    let t : PeerStore := { new a 3 with slots := [some gamma, some beta], nextHandle := 0xFFFFFFFF }
    s.Writes (.add "gamma" gamma.address .empty) (.added gamma.handle) t ∧
      (Op.add "delta" a .empty).act.run t = (.error (.outOfMemory 3), t) ∧
      ∃ u, (hold ⟨7⟩).run t = (.ok (), u) ∧
        (Op.change ⟨7⟩ .setSecure).act.run u = (.error (.lockTimeout "peer store"), u) := by
  intro a beta gamma s t
  have hadd : (Op.add "gamma" gamma.address .empty).act.run s = (.ok (.added gamma.handle), t) := rfl
  have hhold : (hold ⟨7⟩).run t = (.ok (), { t with held := true }) := rfl
  have hwrites := (errors_change_nothing s).1 (.add "gamma" gamma.address .empty)
  rw [hadd] at hwrites
  cases hwrites with
  | done hdid => exact ⟨hdid, rfl, _, hhold, ((errors_change_nothing t).2.2 _ _ hhold).1 _⟩

end PeerStore

end Multilink
