import Mathlib.Data.List.Nodup
import Mathlib.Logic.Function.Basic
import Multilink.Frame
import Multilink.Proofs.Conversations
/-!
# Exchanges between two nodes

Two nodes ask and answer each other. Seen from above, every request that one of them sends begins an
exchange, which moves on as the request is delivered and answered and the reply taken in, or fails on
the way. No node sees these exchanges: it has only the numbers of its conversations, which both nodes
choose from the same range and use again.

`Ledger.Sound` says how far the numbers determine the exchange nevertheless. A conversation that a
node opened stands for the exchange that it began last under that number, and this exchange has not
been completed. Both ways to move on keep it: `Sound.begin` for a new exchange, `Sound.move` for all
that happens to an old one.
-/

namespace Multilink

/-- One of two nodes. -/
inductive Side where
  | left
  | right
  deriving DecidableEq, Repr

def Side.other : Side → Side
  | .left => .right
  | .right => .left

@[simp] theorem Side.other_other (x : Side) : x.other.other = x := by
  cases x <;> rfl

/-- A frame on its way. No node sees which exchange it belongs to. -/
structure Packet where
  dest : Side
  media : Media
  bytes : Bytes
  exchange : Nat
  deriving DecidableEq, Repr

/-- How far an exchange has come. -/
inductive Stage where
  /-- The request is on its way. -/
  | asked
  /-- The request is with the application, as this message. -/
  | delivered (m : Message)
  /-- The reply is on its way. -/
  | answered
  /-- The reply has been taken in. -/
  | done
  /-- A frame was lost or refused, or the reply could not be sent. -/
  | failed
  deriving DecidableEq, Repr

/-- Can the exchange still be completed? -/
def Stage.pending : Stage → Bool
  | .asked | .delivered _ | .answered => true
  | .done | .failed => false

/-- A request and what has become of it. -/
structure Exchange where
  /-- The side that asks. -/
  asker : Side
  /-- The number of the conversation that was opened for it. -/
  id : UInt16
  stage : Stage
  deriving DecidableEq, Repr

def setStage (n : Nat) (stage : Stage) (es : List Exchange) : List Exchange :=
  es.modify n fun e => { e with stage }

/-- The last exchange that a side began under a number: the one that a conversation which it has open
under this number was opened for. -/
def IsOpener (es : List Exchange) (x : Side) (id : UInt16) (n : Nat) : Prop :=
  (∃ e, es[n]? = some e ∧ e.asker = x ∧ e.id = id) ∧
    ∀ k e, n < k → es[k]? = some e → ¬ (e.asker = x ∧ e.id = id)

/-- Is this the frame that an exchange is waiting for? -/
def Packet.Carries (p : Packet) (e : Exchange) : Prop :=
  (e.stage = .asked ∧ p.dest = e.asker.other ∧
    ∃ payload, p.bytes = Frame.build .request e.id payload) ∨
  (e.stage = .answered ∧ p.dest = e.asker ∧
    ∃ payload, p.bytes = Frame.build .reply e.id payload)

/-! ## The list of exchanges -/

theorem getElem?_setStage (n : Nat) (stage : Stage) (es : List Exchange) (k : Nat) :
    (setStage n stage es)[k]? = es[k]?.map fun e => if n = k then { e with stage } else e := by
  rw [setStage, List.getElem?_modify]
  split <;> simp

theorem getElem?_setStage_self {n : Nat} {es : List Exchange} {e : Exchange} (he : es[n]? = some e)
    (stage : Stage) : (setStage n stage es)[n]? = some { e with stage } := by
  rw [getElem?_setStage, he]
  simp

theorem getElem?_setStage_ne {n k : Nat} (h : k ≠ n) (stage : Stage) (es : List Exchange) :
    (setStage n stage es)[k]? = es[k]? := by
  rw [getElem?_setStage]
  simp [h.symm]

/-- What matters of a change to the exchange at one place is what it does there. -/
theorem modify_eq_setStage {n : Nat} {es : List Exchange} {e : Exchange} {f : Exchange → Exchange}
    {stage : Stage} (he : es[n]? = some e) (hf : f e = { e with stage }) :
    es.modify n f = setStage n stage es := by
  refine List.ext_getElem? fun k => ?_
  rw [getElem?_setStage, List.getElem?_modify]
  by_cases hk : n = k
  · subst hk
    simp [he, hf]
  · simp [hk]

/-- The stage of an exchange says nothing about who began it, or under which number. -/
theorem isOpener_setStage {n k : Nat} {stage : Stage} {es : List Exchange} {x : Side} {id : UInt16} :
    IsOpener (setStage n stage es) x id k ↔ IsOpener es x id k := by
  simp only [IsOpener, getElem?_setStage, Option.map_eq_some_iff]
  constructor
  · rintro ⟨⟨e, ⟨e', he', rfl⟩, hx, hid⟩, hlast⟩
    refine ⟨⟨e', he', ?_, ?_⟩, fun k' e'' hk he'' hsame => ?_⟩
    · rw [← hx]; split <;> rfl
    · rw [← hid]; split <;> rfl
    · refine hlast k' _ hk ⟨e'', he'', rfl⟩ ?_
      split <;> exact hsame
  · rintro ⟨⟨e, he, hx, hid⟩, hlast⟩
    refine ⟨⟨_, ⟨e, he, rfl⟩, ?_, ?_⟩, ?_⟩
    · split <;> exact hx
    · split <;> exact hid
    · rintro k' _ hk ⟨e', he', rfl⟩ hsame
      refine hlast k' e' hk he' ?_
      split at hsame <;> exact hsame

theorem IsOpener.unique {es : List Exchange} {x : Side} {id : UInt16} {n k : Nat}
    (hn : IsOpener es x id n) (hk : IsOpener es x id k) : n = k := by
  obtain ⟨⟨e, he, hsame⟩, hlast⟩ := hn
  obtain ⟨⟨e', he', hsame'⟩, hlast'⟩ := hk
  rcases Nat.lt_trichotomy n k with h | h | h
  · exact absurd hsame' (hlast k e' h he')
  · exact h
  · exact absurd hsame (hlast' n e h he)

/-- A new exchange is the opener for its number. -/
theorem isOpener_new (es : List Exchange) (e : Exchange) :
    IsOpener (es ++ [e]) e.asker e.id es.length := by
  refine ⟨⟨e, by simp, rfl, rfl⟩, fun k e' hk he' => ?_⟩
  have := (List.getElem?_eq_some_iff.1 he').1
  simp only [List.length_append, List.length_singleton] at this
  omega

/-- For another number the opener stays. -/
theorem IsOpener.append {es : List Exchange} {x : Side} {id : UInt16} {n : Nat}
    (h : IsOpener es x id n) {e : Exchange} (hne : ¬ (e.asker = x ∧ e.id = id)) :
    IsOpener (es ++ [e]) x id n := by
  obtain ⟨⟨e₀, he₀, hsame⟩, hlast⟩ := h
  have hn := (List.getElem?_eq_some_iff.1 he₀).1
  refine ⟨⟨e₀, by rw [List.getElem?_append_left hn, he₀], hsame⟩, fun k e' hk he' => ?_⟩
  rw [List.getElem?_append] at he'
  split at he'
  · exact hlast k e' hk he'
  · rw [List.getElem?_singleton] at he'
    split at he'
    · cases he'
      exact hne
    · cases he'

/-! ## The ledger -/

/-- All that exchanges depend on: what each side has open, and what is on its way. -/
structure Ledger where
  tracker : Side → Tracker
  flight : List Packet
  exchanges : List Exchange

namespace Ledger

/-- What holds whatever the nodes have done so far. Each side knows the other under a handle. -/
structure Sound (peer : Side → Handle) (s : Ledger) : Prop where
  apart : ∀ x, (s.tracker x).Apart
  ours : ∀ x, ∀ c ∈ (s.tracker x).opened, c.ours = true → c.peer = peer x ∧
    ∃ n e, IsOpener s.exchanges x c.id n ∧ s.exchanges[n]? = some e ∧ e.stage ≠ .done
  theirs : ∀ x, ∀ c ∈ (s.tracker x).opened, c.ours = false → c.peer = peer x ∧
    ∃ (n : Nat) (e : Exchange) (m : Message), s.exchanges[n]? = some e ∧ e.asker = x.other ∧
      e.id = c.id ∧ e.stage = .delivered m
  pending : ∀ (n : Nat) e, s.exchanges[n]? = some e → e.stage.pending = true →
    IsOpener s.exchanges e.asker e.id n ∧
      ∃ c ∈ (s.tracker e.asker).opened, c.ours = true ∧ c.key = (peer e.asker, e.id)
  delivered : ∀ (n : Nat) e m, s.exchanges[n]? = some e → e.stage = .delivered m →
    m.kind = .request ∧ m.conversation = e.id ∧ m.peer = some (peer e.asker.other)
  flight : ∀ p ∈ s.flight, ∃ e, s.exchanges[p.exchange]? = some e ∧ p.Carries e
  once : (s.flight.map (·.exchange)).Nodup

variable {peer : Side → Handle} {s t : Ledger}

/-- A pending exchange moves on to another stage, and what is open changes at one side, `z`. Of its
own conversations that side gives up only the one that stands for the exchange, and only when the
exchange ends; of the other side it takes up only the one that the request of the exchange opens. -/
structure Move (peer : Side → Handle) (s t : Ledger) (n : Nat) (e : Exchange) (stage : Stage)
    (z : Side) (tr : Tracker) : Prop where
  exchange : s.exchanges[n]? = some e
  wasPending : e.stage.pending = true
  exchanges : t.exchanges = setStage n stage s.exchanges
  tracker : t.tracker = Function.update s.tracker z tr
  apart : tr.Apart
  ours : ∀ c ∈ tr.opened, c.ours = true → c ∈ (s.tracker z).opened
  done : stage = .done →
    z = e.asker ∧ ∀ c ∈ tr.opened, c.ours = true → c.key ≠ (peer z, e.id)
  kept : ∀ c ∈ (s.tracker z).opened, c.ours = true →
    c ∈ tr.opened ∨ (stage.pending = false ∧ z = e.asker ∧ c.key = (peer z, e.id))
  theirs : ∀ c ∈ tr.opened, c.ours = false → c ∈ (s.tracker z).opened ∨
    (z = e.asker.other ∧ c.key = (peer z, e.id) ∧ ∃ m, stage = .delivered m)
  settled : ∀ m, e.stage = .delivered m →
    z = e.asker.other ∧ ∀ c ∈ tr.opened, c.ours = false → c.key ≠ (peer z, e.id)
  delivered : ∀ m, stage = .delivered m →
    m.kind = .request ∧ m.conversation = e.id ∧ m.peer = some (peer e.asker.other)
  flight : ∀ p ∈ t.flight, (p ∈ s.flight ∧ p.exchange ≠ n) ∨
    (p.exchange = n ∧ p.Carries { e with stage })
  once : (t.flight.map (·.exchange)).Nodup

namespace Move

variable {n : Nat} {e : Exchange} {stage : Stage} {z : Side} {tr : Tracker}

theorem tracker_self (hm : Move peer s t n e stage z tr) : t.tracker z = tr := by
  rw [hm.tracker, Function.update_self]

theorem tracker_other (hm : Move peer s t n e stage z tr) {x : Side} (hx : x ≠ z) :
    t.tracker x = s.tracker x := by
  rw [hm.tracker, Function.update_of_ne hx]

/-- The exchange that moves on is found at its new stage, every other one as it was. -/
theorem getElem? (hm : Move peer s t n e stage z tr) {k : Nat} {e' : Exchange}
    (h : t.exchanges[k]? = some e') :
    (k = n ∧ e' = { e with stage }) ∨ (k ≠ n ∧ s.exchanges[k]? = some e') := by
  rw [hm.exchanges] at h
  by_cases hk : k = n
  · subst hk
    rw [getElem?_setStage_self hm.exchange] at h
    cases h
    exact .inl ⟨rfl, rfl⟩
  · rw [getElem?_setStage_ne hk] at h
    exact .inr ⟨hk, h⟩

theorem getElem?_self (hm : Move peer s t n e stage z tr) :
    t.exchanges[n]? = some { e with stage } := by
  rw [hm.exchanges, getElem?_setStage_self hm.exchange]

theorem getElem?_ne (hm : Move peer s t n e stage z tr) {k : Nat} (hk : k ≠ n) :
    t.exchanges[k]? = s.exchanges[k]? := by
  rw [hm.exchanges, getElem?_setStage_ne hk]

theorem isOpener_iff (hm : Move peer s t n e stage z tr) {x : Side} {id : UInt16} {k : Nat} :
    IsOpener t.exchanges x id k ↔ IsOpener s.exchanges x id k := by
  rw [hm.exchanges, isOpener_setStage]

theorem mem_ours (hm : Move peer s t n e stage z tr) {x : Side} {c : Conversation}
    (hc : c ∈ (t.tracker x).opened) (hours : c.ours = true) : c ∈ (s.tracker x).opened := by
  by_cases hx : x = z
  · subst hx
    rw [hm.tracker_self] at hc
    exact hm.ours c hc hours
  · rwa [hm.tracker_other hx] at hc

end Move

theorem Sound.move {n : Nat} {e : Exchange} {stage : Stage} {z : Side} {tr : Tracker}
    (h : s.Sound peer) (hm : Move peer s t n e stage z tr) : t.Sound peer where
  apart := by
    intro x
    by_cases hx : x = z
    · rw [hx, hm.tracker_self]
      exact hm.apart
    · rw [hm.tracker_other hx]
      exact h.apart x
  ours := by
    intro x c hc hours
    obtain ⟨hpeer, k, e', hopener, he', hstage⟩ := h.ours x c (hm.mem_ours hc hours) hours
    by_cases hk : k = n
    · subst hk
      cases hm.exchange.symm.trans he'
      refine ⟨hpeer, k, _, hm.isOpener_iff.2 hopener, hm.getElem?_self, fun hdone => ?_⟩
      -- an exchange is done only when the conversation that stands for it is closed
      obtain ⟨⟨e', he'', hasker, hid⟩, -⟩ := hopener
      cases he'.symm.trans he''
      obtain ⟨rfl, hnone⟩ := hm.done hdone
      subst hasker
      rw [hm.tracker_self] at hc
      exact hnone c hc hours (by rw [Conversation.key, hpeer, hid])
    · exact ⟨hpeer, k, e', hm.isOpener_iff.2 hopener, (hm.getElem?_ne hk).trans he', hstage⟩
  theirs := by
    intro x c hc hours
    -- a conversation of the other side was there before, for another exchange, or is new
    have hold : c ∈ (s.tracker x).opened ∧ (∀ m, e.stage = .delivered m →
        ¬ (e.asker = x.other ∧ e.id = c.id)) ∨
        (x = e.asker.other ∧ c.key = (peer x, e.id) ∧ ∃ m, stage = .delivered m) := by
      by_cases hx : x = z
      · subst hx
        rw [hm.tracker_self] at hc
        rcases hm.theirs c hc hours with hold | hnew
        · refine .inl ⟨hold, fun m hs hsame => (hm.settled m hs).2 c hc hours ?_⟩
          rw [Conversation.key, (h.theirs x c hold hours).1, hsame.2]
        · exact .inr hnew
      · rw [hm.tracker_other hx] at hc
        refine .inl ⟨hc, fun m hs hsame => hx ?_⟩
        rw [(hm.settled m hs).1, hsame.1, Side.other_other]
    rcases hold with ⟨hold, hother⟩ | ⟨rfl, hkey, m, hstage⟩
    · obtain ⟨hpeer, k, e', m, he', hasker, hid, hstage⟩ := h.theirs x c hold hours
      refine ⟨hpeer, k, e', m, ?_, hasker, hid, hstage⟩
      rw [hm.getElem?_ne, he']
      rintro rfl
      cases hm.exchange.symm.trans he'
      exact hother m hstage ⟨hasker, hid⟩
    · exact ⟨congrArg Prod.fst hkey, n, _, m, hm.getElem?_self, (Side.other_other _).symm,
        (congrArg Prod.snd hkey).symm, hstage⟩
  pending := by
    intro k e' he' hpending
    rw [hm.isOpener_iff]
    -- the exchange that moves on is the last one under its number, before and after
    have hlast := (h.pending n e hm.exchange hm.wasPending).1
    have hold : ∃ e₀, s.exchanges[k]? = some e₀ ∧ e₀.stage.pending = true ∧ e₀.asker = e'.asker ∧
        e₀.id = e'.id := by
      rcases hm.getElem? he' with ⟨rfl, rfl⟩ | ⟨-, he'⟩
      · exact ⟨e, hm.exchange, hm.wasPending, rfl, rfl⟩
      · exact ⟨e', he', hpending, rfl, rfl⟩
    obtain ⟨e₀, he₀, hp₀, hasker, hid⟩ := hold
    obtain ⟨hopener, c, hc, hours, hkey⟩ := h.pending k e₀ he₀ hp₀
    rw [hasker] at hopener hc hkey
    rw [hid] at hopener hkey
    refine ⟨hopener, c, ?_, hours, hkey⟩
    by_cases hx : e'.asker = z
    · rw [hx] at hc
      rw [hx, hm.tracker_self]
      rcases hm.kept c hc hours with hc | ⟨hended, hz, hkeyₙ⟩
      · exact hc
      · rw [← hz, ← hx, ← show e'.id = e.id from congrArg Prod.snd (hkey.symm.trans hkeyₙ)] at hlast
        cases hlast.unique hopener
        cases hm.getElem?_self.symm.trans he'
        exact absurd (hended.symm.trans hpending) (by simp)
    · rwa [hm.tracker_other hx]
  delivered := by
    intro k e' m he' hstage
    rcases hm.getElem? he' with ⟨-, rfl⟩ | ⟨-, he'⟩
    · exact hm.delivered m hstage
    · exact h.delivered k e' m he' hstage
  flight := by
    intro p hp
    rcases hm.flight p hp with ⟨hp, hne⟩ | ⟨hn, hcarries⟩
    · obtain ⟨e', he', hcarries⟩ := h.flight p hp
      exact ⟨e', (hm.getElem?_ne hne).trans he', hcarries⟩
    · rw [hn]
      exact ⟨_, hm.getElem?_self, hcarries⟩
  once := hm.once

/-- A side opens a conversation for a request that is on its way then. -/
structure Begin (peer : Side → Handle) (s t : Ledger) (x : Side) (c : Conversation) : Prop where
  isOurs : c.ours = true
  ofPeer : c.peer = peer x
  free : (s.tracker x).find? (peer x) c.id = none
  opened : (t.tracker x).opened = (s.tracker x).opened ++ [c]
  others : ∀ y, y ≠ x → t.tracker y = s.tracker y
  exchanges : t.exchanges = s.exchanges ++ [⟨x, c.id, .asked⟩]
  flight : ∃ m payload, t.flight =
    s.flight ++ [⟨x.other, m, Frame.build .request c.id payload, s.exchanges.length⟩]

/-- The other conversations of a side that opens one have other numbers. -/
theorem Begin.id_ne {x : Side} {c b : Conversation} (hb : Begin peer s t x c)
    (hmem : b ∈ (s.tracker x).opened) (hpeer : b.peer = peer x) : b.id ≠ c.id := by
  intro hid
  refine Tracker.find?_eq_none_iff.1 hb.free b hmem ?_
  rw [Conversation.key, hpeer, hid]

theorem Begin.mem_iff {x y : Side} {c b : Conversation} (hb : Begin peer s t x c) :
    b ∈ (t.tracker y).opened ↔ b ∈ (s.tracker y).opened ∨ (y = x ∧ b = c) := by
  by_cases hy : y = x
  · subst hy
    simp [hb.opened]
  · simp [hb.others y hy, hy]

theorem Begin.getElem?_old {x : Side} {c : Conversation} (hb : Begin peer s t x c) {n : Nat}
    {e : Exchange} (he : s.exchanges[n]? = some e) : t.exchanges[n]? = some e := by
  rw [hb.exchanges, List.getElem?_append_left (List.getElem?_eq_some_iff.1 he).1, he]

theorem Begin.getElem?_new {x : Side} {c : Conversation} (hb : Begin peer s t x c) :
    t.exchanges[s.exchanges.length]? = some ⟨x, c.id, .asked⟩ := by
  rw [hb.exchanges]
  simp

theorem Begin.getElem? {x : Side} {c : Conversation} (hb : Begin peer s t x c) {n : Nat}
    {e : Exchange} (he : t.exchanges[n]? = some e) :
    s.exchanges[n]? = some e ∨ (n = s.exchanges.length ∧ e = ⟨x, c.id, .asked⟩) := by
  rw [hb.exchanges, List.getElem?_append] at he
  split at he
  · exact .inl he
  · rw [List.getElem?_singleton] at he
    split at he
    · cases he
      exact .inr ⟨by omega, rfl⟩
    · cases he

/-- A conversation that was open before stands for the same exchange as before. -/
theorem Begin.isOpener {x y : Side} {c b : Conversation} (hb : Begin peer s t x c) {n : Nat}
    (hmem : b ∈ (s.tracker y).opened) (hpeer : b.peer = peer y)
    (h : IsOpener s.exchanges y b.id n) : IsOpener t.exchanges y b.id n := by
  rw [hb.exchanges]
  apply h.append
  rintro ⟨rfl, hid⟩
  exact hb.id_ne hmem hpeer hid.symm

theorem Begin.isOpener_new {x : Side} {c : Conversation} (hb : Begin peer s t x c) :
    IsOpener t.exchanges x c.id s.exchanges.length := by
  rw [hb.exchanges]
  exact Multilink.isOpener_new s.exchanges ⟨x, c.id, .asked⟩

theorem Sound.begin {x : Side} {c : Conversation} (h : s.Sound peer) (hb : Begin peer s t x c) :
    t.Sound peer where
  apart := by
    intro y
    by_cases hy : y = x
    · subst hy
      refine (h.apart y).append (fun b hmem hkey => ?_) hb.opened
      have hbkey : b.key = (peer y, c.id) := by rw [hkey, Conversation.key, hb.ofPeer]
      exact Tracker.find?_eq_none_iff.1 hb.free b hmem hbkey
    · rw [hb.others y hy]
      exact h.apart y
  ours := by
    intro y b hmem hours
    rcases hb.mem_iff.1 hmem with hmem | ⟨rfl, rfl⟩
    · obtain ⟨hpeer, n, e, hopener, he, hstage⟩ := h.ours y b hmem hours
      exact ⟨hpeer, n, e, hb.isOpener hmem hpeer hopener, hb.getElem?_old he, hstage⟩
    · refine ⟨hb.ofPeer, _, _, hb.isOpener_new, hb.getElem?_new, fun hs => ?_⟩
      cases hs
  theirs := by
    intro y b hmem hours
    rcases hb.mem_iff.1 hmem with hmem | ⟨rfl, rfl⟩
    · obtain ⟨hpeer, n, e, m, he, hrest⟩ := h.theirs y b hmem hours
      exact ⟨hpeer, n, e, m, hb.getElem?_old he, hrest⟩
    · rw [hb.isOurs] at hours
      cases hours
  pending := by
    intro n e he hpending
    rcases hb.getElem? he with he | ⟨rfl, rfl⟩
    · obtain ⟨hopener, b, hmem, hours, hkey⟩ := h.pending n e he hpending
      have hpeer : b.peer = peer e.asker := congrArg Prod.fst hkey
      have hid : b.id = e.id := congrArg Prod.snd hkey
      rw [← hid] at hopener ⊢
      exact ⟨hb.isOpener hmem hpeer hopener, b, hb.mem_iff.2 (.inl hmem), hours, hid ▸ hkey⟩
    · refine ⟨hb.isOpener_new, c, hb.mem_iff.2 (.inr ⟨rfl, rfl⟩), hb.isOurs, ?_⟩
      rw [Conversation.key, hb.ofPeer]
  delivered := by
    intro n e m he hstage
    rcases hb.getElem? he with he | ⟨-, rfl⟩
    · exact h.delivered n e m he hstage
    · cases hstage
  flight := by
    intro p hp
    obtain ⟨m, payload, hflight⟩ := hb.flight
    rw [hflight, List.mem_append, List.mem_singleton] at hp
    rcases hp with hp | rfl
    · obtain ⟨e, he, hcarries⟩ := h.flight p hp
      exact ⟨e, hb.getElem?_old he, hcarries⟩
    · exact ⟨_, hb.getElem?_new, .inl ⟨rfl, rfl, payload, rfl⟩⟩
  once := by
    obtain ⟨m, payload, hflight⟩ := hb.flight
    rw [hflight]
    refine nodup_map_append h.once fun p hp hn => ?_
    obtain ⟨e, he, -⟩ := h.flight p hp
    have hlt := (List.getElem?_eq_some_iff.1 he).1
    rw [hn] at hlt
    exact Nat.lt_irrefl _ hlt

/-- Only what is open matters of a tracker. -/
theorem Sound.of_opened (h : s.Sound peer) (hopened : ∀ x, (t.tracker x).opened = (s.tracker x).opened)
    (hflight : t.flight = s.flight) (hexchanges : t.exchanges = s.exchanges) : t.Sound peer := by
  obtain ⟨apart, ours, theirs, pending, delivered, flight, once⟩ := h
  constructor <;> simp only [Tracker.Apart, hopened, hflight, hexchanges] <;> assumption

/-- Nothing has happened yet. -/
theorem sound_empty (h : ∀ x, (s.tracker x).opened = []) (hflight : s.flight = [])
    (hexchanges : s.exchanges = []) : s.Sound peer := by
  constructor <;> simp [Tracker.Apart, h, hflight, hexchanges]

/-! ## What an exchange can do -/

/-- Without a packet the others are still on their way, each for an exchange of its own. -/
theorem Sound.erase_flight {p : Packet} (h : s.Sound peer) (hp : p ∈ s.flight) :
    (∀ q ∈ s.flight.erase p, q ∈ s.flight ∧ q.exchange ≠ p.exchange) ∧
      ((s.flight.erase p).map (·.exchange)).Nodup := by
  have hnodup := h.once.of_map
  refine ⟨fun q hq => ?_, (List.erase_sublist.map _).nodup h.once⟩
  obtain ⟨hne, hmem⟩ := hnodup.mem_erase_iff.1 hq
  exact ⟨hmem, fun he => hne (List.inj_on_of_nodup_map h.once hmem hp he)⟩

/-- A request arrives and is delivered or refused, or it is lost. The side that it arrives at may
open a conversation of the other one, and keeps its own. -/
theorem Sound.land_request {p : Packet} {e : Exchange} {tr : Tracker} {stage : Stage}
    (h : s.Sound peer) (hp : p ∈ s.flight) (he : s.exchanges[p.exchange]? = some e)
    (hasked : e.stage = .asked) (hdest : p.dest = e.asker.other)
    (htracker : t.tracker = Function.update s.tracker p.dest tr)
    (hflight : t.flight = s.flight.erase p)
    (hexchanges : t.exchanges = setStage p.exchange stage s.exchanges)
    (hstage : stage = .failed ∨ ∃ m, stage = .delivered m ∧ m.kind = .request ∧
      m.conversation = e.id ∧ m.peer = some (peer p.dest))
    (hapart : tr.Apart)
    (hours : ∀ c, c.ours = true → (c ∈ tr.opened ↔ c ∈ (s.tracker p.dest).opened))
    (htheirs : ∀ c ∈ tr.opened, c.ours = false → c ∈ (s.tracker p.dest).opened ∨
      (c.key = (peer p.dest, e.id) ∧ stage ≠ .failed)) : t.Sound peer := by
  obtain ⟨herase, honce⟩ := h.erase_flight hp
  have hm : Move peer s t p.exchange e stage p.dest tr :=
    { exchange := he
      wasPending := by rw [hasked]; rfl
      exchanges := hexchanges
      tracker := htracker
      apart := hapart
      ours := fun c hc hco => (hours c hco).1 hc
      done := by
        intro hd
        rcases hstage with rfl | ⟨m, rfl, -⟩ <;> cases hd
      kept := fun c hc hco => .inl ((hours c hco).2 hc)
      theirs := by
        intro c hc hco
        rcases htheirs c hc hco with hc | ⟨hkey, hne⟩
        · exact .inl hc
        · exact .inr ⟨hdest, hkey, (hstage.resolve_left hne).imp fun m hm => hm.1⟩
      settled := by
        intro m hm
        rw [hasked] at hm
        cases hm
      delivered := by
        intro m hm
        rcases hstage with rfl | ⟨m', rfl, hrest⟩
        · cases hm
        · cases hm
          rw [← hdest]
          exact hrest
      flight := by
        intro q hq
        rw [hflight] at hq
        exact .inl (herase q hq)
      once := by rwa [hflight] }
  exact h.move hm

/-- A reply arrives and is taken in or refused, or it is lost. The side that it arrives at may close
the conversation that stands for the exchange, and does so if the exchange is done. -/
theorem Sound.land_reply {p : Packet} {e : Exchange} {tr : Tracker} {stage : Stage}
    (h : s.Sound peer) (hp : p ∈ s.flight) (he : s.exchanges[p.exchange]? = some e)
    (hanswered : e.stage = .answered) (hdest : p.dest = e.asker)
    (htracker : t.tracker = Function.update s.tracker p.dest tr)
    (hflight : t.flight = s.flight.erase p)
    (hexchanges : t.exchanges = setStage p.exchange stage s.exchanges)
    (hstage : stage = .failed ∨ stage = .done) (hapart : tr.Apart)
    (hsub : ∀ c ∈ tr.opened, c ∈ (s.tracker p.dest).opened)
    (hclosed : stage = .done → ∀ c ∈ tr.opened, c.ours = true → c.key ≠ (peer p.dest, e.id))
    (hkept : ∀ c ∈ (s.tracker p.dest).opened, c.ours = true →
      c ∈ tr.opened ∨ c.key = (peer p.dest, e.id)) : t.Sound peer := by
  obtain ⟨herase, honce⟩ := h.erase_flight hp
  have hm : Move peer s t p.exchange e stage p.dest tr :=
    { exchange := he
      wasPending := by rw [hanswered]; rfl
      exchanges := hexchanges
      tracker := htracker
      apart := hapart
      ours := fun c hc _ => hsub c hc
      done := fun hd => ⟨hdest, hclosed hd⟩
      kept := by
        intro c hc hco
        rcases hkept c hc hco with hc | hkey
        · exact .inl hc
        · refine .inr ⟨?_, hdest, hkey⟩
          rcases hstage with rfl | rfl <;> rfl
      theirs := fun c hc _ => .inl (hsub c hc)
      settled := by
        intro m hm
        rw [hanswered] at hm
        cases hm
      delivered := by
        intro m hm
        rcases hstage with rfl | rfl <;> cases hm
      flight := by
        intro q hq
        rw [hflight] at hq
        exact .inl (herase q hq)
      once := by rwa [hflight] }
  exact h.move hm

/-- The application answers a request that was delivered. That ends the conversation of the other
side, whether or not the reply can be sent. -/
theorem Sound.answer {n : Nat} {e : Exchange} {m : Message} {tr : Tracker} {stage : Stage}
    (h : s.Sound peer) (he : s.exchanges[n]? = some e) (hdelivered : e.stage = .delivered m)
    (htracker : t.tracker = Function.update s.tracker e.asker.other tr)
    (hexchanges : t.exchanges = setStage n stage s.exchanges)
    (hstage : (stage = .failed ∧ t.flight = s.flight) ∨
      (stage = .answered ∧ ∃ media payload, t.flight =
        s.flight ++ [⟨e.asker, media, Frame.build .reply e.id payload, n⟩]))
    (hapart : tr.Apart)
    (hclosed : ∀ c, c ∈ tr.opened ↔ c ∈ (s.tracker e.asker.other).opened ∧
      ¬ (c.key = (peer e.asker.other, e.id) ∧ c.ours = false)) : t.Sound peer := by
  -- nothing is on its way for an exchange that waits for the application
  have hquiet : ∀ q ∈ s.flight, q.exchange ≠ n := by
    intro q hq hn
    obtain ⟨e', he', hcarries⟩ := h.flight q hq
    rw [hn] at he'
    cases he.symm.trans he'
    rcases hcarries with ⟨hs, -⟩ | ⟨hs, -⟩
    all_goals
      rw [hdelivered] at hs
      cases hs
  have hm : Move peer s t n e stage e.asker.other tr :=
    { exchange := he
      wasPending := by rw [hdelivered]; rfl
      exchanges := hexchanges
      tracker := htracker
      apart := hapart
      ours := fun c hc _ => ((hclosed c).1 hc).1
      done := by
        intro hd
        rcases hstage with ⟨rfl, -⟩ | ⟨rfl, -⟩ <;> cases hd
      kept := by
        intro c hc hco
        refine .inl ((hclosed c).2 ⟨hc, fun hb => ?_⟩)
        rw [hco] at hb
        cases hb.2
      theirs := fun c hc _ => .inl ((hclosed c).1 hc).1
      settled := fun _ _ => ⟨rfl, fun c hc hco hkey => ((hclosed c).1 hc).2 ⟨hkey, hco⟩⟩
      delivered := by
        intro m hm
        rcases hstage with ⟨rfl, -⟩ | ⟨rfl, -⟩ <;> cases hm
      flight := by
        intro q hq
        rcases hstage with ⟨rfl, hf⟩ | ⟨rfl, media, payload, hf⟩
        · rw [hf] at hq
          exact .inl ⟨hq, hquiet q hq⟩
        · rw [hf, List.mem_append, List.mem_singleton] at hq
          rcases hq with hq | rfl
          · exact .inl ⟨hq, hquiet q hq⟩
          · exact .inr ⟨rfl, .inr ⟨rfl, rfl, payload, rfl⟩⟩
      once := by
        rcases hstage with ⟨rfl, hf⟩ | ⟨rfl, media, payload, hf⟩
        · rw [hf]
          exact h.once
        · rw [hf]
          exact nodup_map_append h.once hquiet }
  exact h.move hm

end Ledger

end Multilink
