import Multilink.Proofs.Attempts
import Multilink.Proofs.FloatOrder
import Multilink.Proofs.Scorings
/-!
# The best medium

A selection scores the media that a peer and this node have in common, one after the other in the order of
their bits, and holds on to the best of those before. Scores that are numbers are in one order, and no two
media have the same priority, so the pairs of score and priority are in one order too, `Peer.merit`, and each
step of the selection takes the larger of two. `PeerStore.select_best` says which medium is picked, and what the
selection leaves behind.
-/

namespace Multilink

theorem Media.eq_of_priority {m n : Media} (h : m.priority = n.priority) : m = n := by
  cases m <;> cases n <;> first | rfl | cases h

/-- A scoring records one rate, begins to count anew and notes the score with its time. -/
theorem LinkStats.snd_score (s : LinkStats Score) (profile : Profile Score) (length : Nat) (now : Micros) :
    (s.score profile length now).2 =
      { s with
        history := s.history.push s.currentFailureRate
        sendOk := 0, sendFail := 0, recvOk := 0, recvFail := 0
        lastScore := some (s.score profile length now).1
        lastScoredAt := now } := by
  simp only [score, resetCounters, settle_eq]

namespace Peer

open FloatOrder

variable {profiles : Profiles} {now : Micros} {length : Nat} {usable : MediaSet} {p q : Peer}
variable {m n : Media} {x y : Score} {best : Option (Media × Score)} {b c : Media × Score}

/-! ## One step of the selection -/

/-- What a scored medium is judged by: its score, and its priority among equal scores. -/
def merit (c : Media × Score) : (ℤ ×ₗ ℤ ×ₗ ℤ) ×ₗ ℕ :=
  toLex (rank c.2, c.1.priority)

/-- The better of two media is the one of more merit. -/
theorem merit_better (hb : b.2.isNaN = false) (hx : x.isNaN = false) :
    merit (better (some b) m x) = max (merit b) (merit (m, x)) := by
  obtain ⟨n, y⟩ := b
  have hiff : (decide (x < y) || (y == x && decide (m.priority < n.priority))) = true ↔
      merit (m, x) < merit (n, y) := by
    rw [Bool.or_eq_true, Bool.and_eq_true, decide_eq_true_iff, decide_eq_true_iff, lt_iff hx hb,
      beq_iff hb hx, merit, merit, Prod.Lex.toLex_lt_toLex, eq_comm]
  rw [better]
  split
  · next h => rw [max_eq_left (hiff.1 h).le]
  · next h => rw [max_eq_right (not_lt.1 (mt hiff.2 h))]

/-- The old medium and the new one both have no more merit than the better one. -/
theorem merit_le_better (hb : ∀ b, best = some b → b.2.isNaN = false) (hx : x.isNaN = false) :
    (∀ b, best = some b → merit b ≤ merit (better best m x)) ∧
      merit (m, x) ≤ merit (better best m x) := by
  cases best with
  | none => exact ⟨nofun, le_rfl⟩
  | some b =>
    rw [merit_better (hb b rfl) hx]
    refine ⟨fun b' hb' => ?_, le_max_right _ _⟩
    cases hb'
    exact le_max_left _ _

/-! ## The whole selection -/

theorem fst_score? (p : Peer) (m : Media) : (p.score? profiles now length m).1 =
    (p.stats.get m).map fun s => (s.score (profiles.get m) length now).1 := by
  unfold score?
  cases p.stats.get m <;> rfl

/-- The scores that media get are not changed by scoring others first. -/
theorem fst_score?_of_ne (h : m ≠ n) :
    ((p.score? profiles now length n).2.score? profiles now length m).1 =
      (p.score? profiles now length m).1 := by
  rw [fst_score?, fst_score?, stats_score?_of_ne h]

/-- This medium with its score is the best of the best one before and of others, as they score now. -/
structure Leads (profiles : Profiles) (now : Micros) (length : Nat) (p : Peer) (ms : List Media)
    (best : Option (Media × Score)) (c : Media × Score) : Prop where
  among : best = some c ∨ c.1 ∈ ms ∧ (p.score? profiles now length c.1).1 = some c.2
  before : ∀ b, best = some b → merit b ≤ merit c
  scored : ∀ m ∈ ms, ∀ x, (p.score? profiles now length m).1 = some x → merit (m, x) ≤ merit c

/-- A medium that the peer lacks takes no part. -/
theorem Leads.skip {ms : List Media} (hn : n ∉ ms) (hnone : (p.score? profiles now length n).1 = none)
    (h : Leads profiles now length (p.score? profiles now length n).2 ms best c) :
    Leads profiles now length p (n :: ms) best c where
  among := h.among.imp_right fun ⟨hm, hx⟩ =>
    ⟨.tail _ hm, fst_score?_of_ne (ne_of_mem_of_not_mem hm hn) ▸ hx⟩
  before := h.before
  scored := by
    rintro m (_ | ⟨_, hm⟩) x hx
    · cases hnone.symm.trans hx
    · exact h.scored m hm x ((fst_score?_of_ne (ne_of_mem_of_not_mem hm hn)).trans hx)

/-- What is the best after a medium has been compared with the best one so far is the best of all. -/
theorem Leads.take {ms : List Media} (hn : n ∉ ms) (hbest : ∀ b, best = some b → b.2.isNaN = false)
    (hsome : (p.score? profiles now length n).1 = some x) (hx : x.isNaN = false)
    (h : Leads profiles now length (p.score? profiles now length n).2 ms (some (better best n x)) c) :
    Leads profiles now length p (n :: ms) best c := by
  obtain ⟨hold, hnew⟩ := merit_le_better (m := n) hbest hx
  have hle := h.before _ rfl
  refine ⟨?_, fun b hb => (hold b hb).trans hle, ?_⟩
  · obtain he | ⟨hm, hscore⟩ := h.among
    · cases he
      obtain he | he := better_cases best n x
      · rw [he]
        exact .inr ⟨.head _, hsome⟩
      · exact .inl he
    · exact .inr ⟨.tail _ hm, fst_score?_of_ne (ne_of_mem_of_not_mem hm hn) ▸ hscore⟩
  · rintro m (_ | ⟨_, hm⟩) y hy
    · cases hsome.symm.trans hy
      exact hnew.trans hle
    · exact h.scored m hm y ((fst_score?_of_ne (ne_of_mem_of_not_mem hm hn)).trans hy)

/-- Of the best medium before and those that are left, the best comes out. -/
theorem leads_selectFrom {ms : List Media} (hms : ms.Nodup)
    (numbers : ∀ m ∈ ms, ∀ x, (p.score? profiles now length m).1 = some x → x.isNaN = false)
    (hbest : ∀ b, best = some b → b.2.isNaN = false)
    (h : (selectFrom profiles now length ms best p).1 = some c) :
    Leads profiles now length p ms best c := by
  induction ms generalizing best p with
  | nil => exact ⟨.inl h, fun b hb => (Option.some.inj (hb.symm.trans h) ▸ le_rfl), nofun⟩
  | cons n rest ih =>
    obtain ⟨hn, hrest⟩ := List.nodup_cons.1 hms
    have hnumbers : ∀ m ∈ rest, ∀ x,
        ((p.score? profiles now length n).2.score? profiles now length m).1 = some x →
          x.isNaN = false := fun m hm x hx =>
      numbers m (.tail _ hm) x (fst_score?_of_ne (ne_of_mem_of_not_mem hm hn) ▸ hx)
    rw [selectFrom] at h
    split at h
    · next q hq =>
      rw [hq] at hnumbers
      exact .skip hn (congrArg Prod.fst hq) (by rw [hq]; exact ih hrest hnumbers hbest h)
    · next x q hq =>
      have hsome : (p.score? profiles now length n).1 = some x := congrArg Prod.fst hq
      have hx := numbers n (.head _) x hsome
      rw [hq] at hnumbers
      have hbetter : (better best n x).2.isNaN = false := by
        obtain he | he := better_cases best n x
        · rwa [he]
        · exact hbest _ he
      -- what is held on to is a number again, so the order goes on to apply to it
      refine .take hn hbest hsome hx ?_
      rw [hq]
      exact ih hrest hnumbers (by rintro b ⟨⟩; exact hbetter) h

/-! ## What is picked, and what is left behind -/

/-- The peer and this node both have the medium. -/
def Shares (p : Peer) (usable : MediaSet) (m : Media) : Prop :=
  p.media.contains m = true ∧ usable.contains m = true

/-- The last score of a medium. -/
def lastScore? (p : Peer) (m : Media) : Option Score :=
  (p.stats.get m).bind (·.lastScore)

/-- No medium that is shared has a higher last score, and none with the same has a higher priority. -/
structure Best (p : Peer) (usable : MediaSet) (m : Media) (x : Score) : Prop where
  shared : p.Shares usable m
  score : p.lastScore? m = some x
  others : ∀ n, p.Shares usable n → n ≠ m → ∃ y, p.lastScore? n = some y ∧ y ≤ x ∧
    ((y == x) = true → n.priority < m.priority)

/-- Every medium that is shared has been scored once, and nothing else has changed. -/
structure Surveyed (profiles : Profiles) (now : Micros) (length : Nat) (usable : MediaSet)
    (p q : Peer) : Prop where
  scored : ∀ m, p.Shares usable m → ∃ s, p.stats.get m = some s ∧ q.stats.get m = some
    { s with
      history := s.history.push s.currentFailureRate
      sendOk := 0, sendFail := 0, recvOk := 0, recvFail := 0
      lastScore := some (s.score (profiles.get m) length now).1
      lastScoredAt := now }
  others : ∀ m, ¬ p.Shares usable m → q.stats.get m = p.stats.get m
  rest : q = { p with stats := q.stats }

theorem mem_toList_inter : m ∈ (p.media.inter usable).toList ↔ p.Shares usable m := by
  simp [Shares]

theorem surveyed_select? (hp : p.Measured) :
    p.Surveyed profiles now length usable (p.select? profiles now length usable).2 := by
  have hstats (m : Media) : (p.select? profiles now length usable).2.stats.get m = _ :=
    stats_selectFrom (MediaSet.nodup_toList _) none p m
  obtain ⟨stats, hselect⟩ :=
    p.exists_stats_selectFrom profiles now length (p.media.inter usable).toList none
  refine ⟨fun m hm => ?_, fun m hm => ?_, by rw [select?, hselect]⟩
  · obtain ⟨s, hs⟩ := Option.isSome_iff_exists.1 ((hp m).trans hm.1)
    refine ⟨s, hs, ?_⟩
    rw [hstats, hs, Option.map_some, if_pos (mem_toList_inter.2 hm), LinkStats.snd_score]
  · have hnot := mt mem_toList_inter.1 hm
    simp only [hstats, hnot, if_false, Option.map_id']

theorem select?_eq_none_iff (hp : p.Measured) :
    (p.select? profiles now length usable).1 = none ↔ ∀ m, ¬ p.Shares usable m := by
  constructor
  · intro hnone m hm
    have hsome : (p.select? profiles now length usable).1.isSome = true := select?_isSome hp hm.1 hm.2
    rw [hnone] at hsome
    cases hsome
  · intro hnone
    rw [select?_of_none fun m hm => by simpa using fun hu => hnone m ⟨hm, hu⟩]

/-- The score that a shared medium gets is its last one afterwards. -/
theorem Surveyed.lastScore? (h : p.Surveyed profiles now length usable q) (hm : p.Shares usable m) :
    q.lastScore? m = (p.score? profiles now length m).1 := by
  obtain ⟨s, hs, hscored⟩ := h.scored m hm
  rw [fst_score?, hs, Peer.lastScore?, hscored]
  rfl

theorem Surveyed.shares_iff (h : p.Surveyed profiles now length usable q) :
    q.Shares usable m ↔ p.Shares usable m := by
  rw [h.rest]
  rfl

theorem of_merit_le (hy : y.isNaN = false) (hx : x.isNaN = false) (hne : n ≠ m)
    (h : merit (n, y) ≤ merit (m, x)) : y ≤ x ∧ ((y == x) = true → n.priority < m.priority) := by
  rw [merit, merit, Prod.Lex.toLex_le_toLex] at h
  constructor
  · rw [le_iff hy hx]
    obtain hlt | ⟨heq, -⟩ := h
    · exact hlt.le
    · exact heq.le
  · intro hsame
    have heq := (beq_iff hy hx).1 hsame
    obtain hlt | ⟨-, hle⟩ := h
    · exact absurd heq hlt.ne
    · exact lt_of_le_of_ne hle (mt Media.eq_of_priority hne)

theorem best_select? (hp : p.Measured)
    (numbers : ∀ m x, p.Shares usable m →
      (p.select? profiles now length usable).2.lastScore? m = some x → x.isNaN = false)
    (h : (p.select? profiles now length usable).1 = some m) :
    ∃ x, (p.select? profiles now length usable).2.Best usable m x := by
  have hsurvey : p.Surveyed profiles now length usable (p.select? profiles now length usable).2 :=
    surveyed_select? hp
  have hnumber (n : Media) (y : Score) (hn : p.Shares usable n)
      (hy : (p.score? profiles now length n).1 = some y) : y.isNaN = false :=
    numbers n y hn ((hsurvey.lastScore? hn).trans hy)
  obtain ⟨⟨m, x⟩, hfrom, rfl⟩ := Option.map_eq_some_iff.1 h
  obtain ⟨among, -, scored⟩ := leads_selectFrom (MediaSet.nodup_toList _)
    (fun n hn y => hnumber n y (mem_toList_inter.1 hn)) (by simp) hfrom
  obtain ⟨hm, hx⟩ := among.resolve_left (Option.some_ne_none _).symm
  rw [mem_toList_inter] at hm
  refine ⟨x, hsurvey.shares_iff.2 hm, (hsurvey.lastScore? hm).trans hx, fun n hn hne => ?_⟩
  rw [hsurvey.shares_iff] at hn
  obtain ⟨s, hs, -⟩ := hsurvey.scored n hn
  have hy : (p.score? profiles now length n).1 = some (s.score (profiles.get n) length now).1 := by
    rw [fst_score?, hs]
    rfl
  exact ⟨_, (hsurvey.lastScore? hn).trans hy, of_merit_le (hnumber n _ hn hy) (hnumber m x hm hx) hne
    (scored n (mem_toList_inter.2 hn) _ hy)⟩

end Peer

namespace PeerStore

variable {s : PeerStore} {p : Peer} {a : Address} {capacity : Nat}

/-- A selection for a peer in a store that calls lead to picks nothing exactly if the peer and this node have
no medium in common, and otherwise one of these. If all scores that it computes are numbers, none of these
media has a higher score than this one, and none with the same score has a higher priority. Each of them is
scored once and nothing else changes. -/
theorem select_best {tr : List (Call × Except Error Answer)} (h : Trace Step (new a capacity) tr s)
    (hp : p ∈ s.peers) (profiles : Profiles) (now : Micros) (length : Nat) (usable : MediaSet) :
    ∃ picked before after q, p.select? profiles now length usable = (picked, q) ∧
      (picked = none ↔ ∀ m, ¬ p.Shares usable m) ∧ (∀ m, picked = some m → p.Shares usable m) ∧
      ((∀ m x, p.Shares usable m → q.lastScore? m = some x → x.isNaN = false) →
        ∀ m, picked = some m → ∃ x, q.Best usable m x) ∧
      p.Surveyed profiles now length usable q ∧ s.slots = before ++ some p :: after ∧
      Step s ⟨.change p.handle (.select profiles now length usable), false⟩
        (.ok (.chosen picked p.address)) { s with slots := before ++ some q :: after, held := false } := by
  have hw := (Inv.trace h).wellFormed
  have hmeasured := hw.measured p hp
  obtain ⟨before, after, hseat⟩ := WellFormed.exists_seat (s := { s with held := false }) hw rfl hp
  refine ⟨_, before, after, _, rfl, Peer.select?_eq_none_iff hmeasured, fun m => Peer.select?_mem,
    fun numbers m => Peer.best_select? hmeasured numbers, Peer.surveyed_select? hmeasured, hseat.slots, ?_⟩
  rw [Step, Op.act, Change.act, Act.run_map, select, hseat.withPeer]
  rfl

/-- The wired bus and the short-range radio carry eight bytes equally well, the modem carries them worse. -/
theorem equal_scores :
    let a : Address := ⟨2, 0, 0, 0, 0, 1⟩
    let p := Peer.make ⟨1⟩ "far" ⟨2, 0, 0, 0, 0, 2⟩ (.ofList [.radioShort, .cellular, .busCan]) a
    let calls : List (Call × Except Error Answer) :=
      [(⟨.add "far" p.address p.media, false⟩, .ok (.added ⟨1⟩))]
    let usable : MediaSet := .ofList [.radioShort, .radioMesh, .cellular, .busCan]
    ∃ s q x, Trace Step (new a 2) calls s ∧ p ∈ s.peers ∧
      p.select? .builtIn 5 8 usable = (some .busCan, q) ∧ q.Best usable .busCan x ∧
      x = 10 ∧ q.lastScore? .radioShort = some 10 := by
  intro a p calls usable
  have htrace : Trace Step (new a 2) calls { new a 2 with slots := [some p], nextHandle := 2 } :=
    .snoc .nil rfl
  have hnumbers : ∀ m ∈ Media.all,
      ((p.select? .builtIn 5 8 usable).2.lastScore? m).all (!·.isNaN) = true := by decide +kernel
  obtain ⟨picked, -, -, q, hselect, -, -, hbest, -⟩ :=
    select_best htrace (p := p) (.head _) .builtIn 5 8 usable
  have hpicked : picked = some .busCan :=
    (congrArg Prod.fst hselect).symm.trans (by decide +kernel)
  have hwired : (p.select? .builtIn 5 8 usable).2.lastScore? .busCan = some 10 := by decide +kernel
  have hradio : (p.select? .builtIn 5 8 usable).2.lastScore? .radioShort = some 10 := by decide +kernel
  rw [hselect] at hnumbers hwired hradio
  obtain ⟨x, hx⟩ := hbest (fun m x _ hx => by simpa [hx] using hnumbers m (Media.mem_all m)) .busCan hpicked
  exact ⟨_, q, x, htrace, .head _, hpicked ▸ hselect, hx,
    Option.some.inj (hx.score.symm.trans hwired), hradio⟩

end PeerStore

end Multilink
