import Mathlib.Data.List.Iterate
import Multilink.Proofs.ConversationMap
/-!
# The numbers of conversations

The numbers for the conversations of this node come from one walk through 1 to 65535 and round again,
shared by all peers, and every call goes on where the last one stopped. `Tracker.walkTrying` is the walk
with the numbers that it tries; `Tracker.GoesOn` says that numbers follow each other on it, which holds
of what one call tries (`Tracker.step_goesOn`) and so of what all the calls of a run do
(`Tracker.trace_goesOn`).

What is open with a peer decides which of the numbers it takes, `Tracker.Picks`. As the walk does not
care for whom it tries a number, no number comes again before all others have been tried.
-/

namespace Multilink.Tracker

variable {t u : Tracker} {peer : Handle} {steps : Nat} {start : UInt16}

/-! ## What a walk tries -/

/-- The walk, with the numbers that it tries. -/
def walkTrying (t : Tracker) (peer : Handle) : Nat → UInt16 → List UInt16 × Option UInt16 × UInt16
  | 0, id => ([], none, id)
  | steps + 1, id =>
    if (t.find? peer id).isNone then ([id], some id, following id)
    else
      let (ids, r) := walkTrying t peer steps (following id)
      (id :: ids, r)

theorem walkTrying_snd (t : Tracker) (peer : Handle) (steps : Nat) (start : UInt16) :
    (t.walkTrying peer steps start).2 = t.walk peer steps start := by
  induction steps generalizing start with
  | zero => rfl
  | succ steps ih =>
    rw [walkTrying, walk]
    split
    · rfl
    · exact ih (following start)

/-- What a walk tries from `start` and where it ends: at the first number that is not open with the
peer, or after all its steps. -/
inductive Walks (t : Tracker) (peer : Handle) (steps : Nat) (start : UInt16) :
    List UInt16 × Option UInt16 × UInt16 → Prop
  | first {n : Nat} (inside : n < steps) (taken : ∀ k < n, t.find? peer (following^[k] start) ≠ none)
      (free : t.find? peer (following^[n] start) = none) :
      Walks t peer steps start
        (.iterate following start (n + 1), some (following^[n] start), following^[n + 1] start)
  | full (taken : ∀ k < steps, t.find? peer (following^[k] start) ≠ none) :
      Walks t peer steps start (.iterate following start steps, none, following^[steps] start)

theorem walks (t : Tracker) (peer : Handle) (steps : Nat) (start : UInt16) :
    Walks t peer steps start (t.walkTrying peer steps start) := by
  induction steps generalizing start with
  | zero => exact .full fun _ hk => absurd hk (Nat.not_lt_zero _)
  | succ steps ih =>
    rw [walkTrying]
    split
    · next hfree =>
      exact .first (n := 0) (Nat.succ_pos steps) (fun _ hk => absurd hk (Nat.not_lt_zero _))
        (Option.isNone_iff_eq_none.1 hfree)
    · next hopen =>
      -- the number that is passed over comes before those of the rest of the walk
      have htaken {n : Nat} (h : ∀ k < n, t.find? peer (following^[k] (following start)) ≠ none) :
          ∀ k < n + 1, t.find? peer (following^[k] start) ≠ none := by
        intro k hk
        cases k with
        | zero => exact fun hnone => hopen (Option.isNone_iff_eq_none.2 hnone)
        | succ k => exact h k (Nat.lt_of_succ_lt_succ hk)
      have hrest := ih (following start)
      generalize t.walkTrying peer steps (following start) = r at hrest
      cases hrest with
      | @first n hinside hbefore hfree =>
        exact .first (n := n + 1) (Nat.succ_lt_succ hinside) (htaken hbefore) hfree
      | full hall => exact .full (htaken hall)

/-! ## What a call tries -/

/-- The numbers that a call tries. Only opening a conversation of this node walks. -/
def Call.tries (t : Tracker) : Call → List UInt16
  | .open peer _ .ours => (t.walkTrying peer 65535 t.nextId).1
  | .open _ _ (.theirs _) | .close _ _ _ | .closeAll _ => []

/-- A call, its answer and the numbers that it tried. -/
abbrev Turn := Call × Except Error Answer × List UInt16

/-- A call, together with the numbers that it tries. -/
def StepTrying (t : Tracker) (c : Call) (r : Except Error Answer × List UInt16) (u : Tracker) : Prop :=
  Step t c r.1 u ∧ r.2 = c.tries t

/-- All numbers that the calls of a run try. -/
def tried (tr : List Turn) : List UInt16 :=
  tr.flatMap fun e => e.2.2

/-- These numbers follow each other on the walk, from one on to before another. -/
def GoesOn (start : UInt16) (ids : List UInt16) (next : UInt16) : Prop :=
  ids = .iterate following start ids.length ∧ next = following^[ids.length] start

namespace GoesOn

variable {a b c : UInt16} {ids ids' : List UInt16}

theorem nil (a : UInt16) : GoesOn a [] a := ⟨rfl, rfl⟩

theorem iterate (a : UInt16) (n : Nat) : GoesOn a (.iterate following a n) (following^[n] a) := by
  rw [GoesOn, List.length_iterate]
  exact ⟨rfl, rfl⟩

theorem append (h : GoesOn a ids b) (h' : GoesOn b ids' c) : GoesOn a (ids ++ ids') c := by
  obtain ⟨hids, rfl⟩ := h
  obtain ⟨hids', rfl⟩ := h'
  rw [GoesOn, List.length_append, List.iterate_add, ← hids, ← hids', Nat.add_comm ids.length,
    Function.iterate_add_apply]
  exact ⟨rfl, rfl⟩

/-- The last of the numbers comes where the others stop, and the walk stops at the one that follows. -/
theorem of_snoc {id : UInt16} (h : GoesOn a (ids ++ [id]) b) : GoesOn a ids id ∧ b = following id := by
  obtain ⟨hids, hb⟩ := h
  rw [List.length_append, List.length_singleton] at hids hb
  rw [List.iterate_add] at hids
  obtain ⟨hinit, hlast⟩ := List.append_inj' hids (by simp)
  have hid : id = following^[ids.length] a := (List.cons.inj hlast).1
  rw [hb, Function.iterate_succ_apply', ← hid]
  exact ⟨⟨hinit, hid⟩, rfl⟩

theorem ne_zero (h : GoesOn a ids b) (ha : a ≠ 0) : b ≠ 0 ∧ 0 ∉ ids := by
  obtain ⟨hids, hb⟩ := h
  have hiterate (n : Nat) : following^[n] a ≠ 0 := fun h0 => by
    have hzero := congrArg UInt16.toNat h0
    rw [toNat_following_iterate ha] at hzero
    cases hzero
  refine ⟨hb ▸ hiterate _, fun hmem => ?_⟩
  rw [hids] at hmem
  obtain ⟨n, -, hn⟩ := List.mem_iterate.1 hmem
  exact hiterate n hn.symm

/-- A walk that comes back to a number has come by every other. -/
theorem round {id : UInt16} (hid : id ≠ 0) (h : GoesOn (following id) ids id) :
    ∀ k ≠ 0, k ≠ id → k ∈ ids := by
  intro k hk hne
  obtain ⟨hids, hback⟩ := h
  have hlength : 65534 ≤ ids.length := by
    have hpos : id.toNat ≠ 0 := fun h0 => hid (UInt16.toNat_inj.1 h0)
    have hlt := id.toNat_lt
    have hturn := congrArg UInt16.toNat hback
    rw [← Function.iterate_succ_apply, toNat_following_iterate hid] at hturn
    omega
  obtain ⟨n, hn, rfl⟩ := exists_following_iterate (following_ne_zero id) hk
  rw [hids, List.mem_iterate]
  refine ⟨n, ?_, rfl⟩
  by_contra hge
  -- it would be the last of all numbers, which is the one that the walk came back to
  have hn : n = ids.length := by omega
  exact hne (by rw [hn, ← hback])

end GoesOn

theorem walkTrying_goesOn (t : Tracker) (peer : Handle) (steps : Nat) (start : UInt16) :
    GoesOn start (t.walkTrying peer steps start).1 (t.walk peer steps start).2 := by
  rw [← walkTrying_snd]
  have hwalks := walks t peer steps start
  generalize t.walkTrying peer steps start = r at hwalks
  cases hwalks with
  | first => exact .iterate start _
  | full => exact .iterate start steps

theorem nextId_openOurs (peer : Handle) (reason : String) (t : Tracker) :
    ((openOurs peer reason).run t).2.nextId = (t.walk peer 65535 t.nextId).2 := by
  rcases hw : t.walk peer 65535 t.nextId with ⟨_ | id, next⟩ <;> simp only [openOurs, Act.run, hw]

/-- Whatever walks goes on where the walk has stopped, and nothing else moves it. -/
theorem act_goesOn (c : Call) (t : Tracker) : GoesOn t.nextId (c.tries t) (c.act.run t).2.nextId := by
  cases c with
  | «open» peer reason origin =>
    cases origin with
    | ours =>
      rw [Call.act, Act.run_map, Tracker.open, nextId_openOurs]
      exact walkTrying_goesOn t peer 65535 t.nextId
    | theirs id =>
      rw [Call.act, Act.run_map, Tracker.open]
      cases hf : t.find? peer id with
      | none =>
        rw [run_openTheirs_free hf]
        exact .nil _
      | some c =>
        rw [run_openTheirs_taken hf]
        exact .nil _
  | close scope peer id =>
    rw [Call.act, Act.run_map, scope.close_eq]
    rcases run_closeIf peer id (fun c => scope.covers c.ours) t with ⟨c, -, -, hrun⟩ | ⟨-, hrun⟩
    · rw [hrun]
      exact .nil _
    · rw [hrun]
      exact .nil _
  | closeAll peer => exact .nil _

theorem step_goesOn {c : Call} {r : Except Error Answer × List UInt16} (h : StepTrying t c r u) :
    GoesOn t.nextId r.2 u.nextId := by
  obtain ⟨⟨t', hrun, -, hnext⟩, hids⟩ := h
  have hact := act_goesOn c t
  rwa [hrun, ← hids, ← hnext] at hact

theorem trace_goesOn {tr : List Turn}
    (h : Trace StepTrying t tr u) : GoesOn t.nextId (tried tr) u.nextId := by
  induction h with
  | nil => exact .nil _
  | snoc _ hs ih =>
    rw [tried, List.flatMap_append, List.flatMap_singleton]
    exact ih.append (step_goesOn hs)

/-! ## What a peer takes -/

/-- What opening a conversation of this node comes to, with the numbers that are tried: the first of them
that is not open with the peer, or an error if they all are and there are no others. -/
inductive Picks (t : Tracker) (peer : Handle) : List UInt16 → Except Error UInt16 → Prop
  | first {taken : List UInt16} {id : UInt16} (live : ∀ k ∈ taken, t.find? peer k ≠ none)
      (free : t.find? peer id = none) : Picks t peer (taken ++ [id]) (.ok id)
  | full {ids : List UInt16} (round : ids.length = 65535) (all : ∀ id ≠ 0, id ∈ ids)
      (live : ∀ id ∈ ids, t.find? peer id ≠ none) : Picks t peer ids (.error (.conversation peer 0))

theorem picks (h : t.nextId ≠ 0) (peer : Handle) (reason : String) :
    Picks t peer (Call.tries t (.open peer reason .ours)) ((openOurs peer reason).run t).1 := by
  have hrun : ((openOurs peer reason).run t).1 =
      (match (t.walk peer 65535 t.nextId).1 with
        | some id => .ok id
        | none => .error (.conversation peer 0)) := by
    rcases hw : t.walk peer 65535 t.nextId with ⟨_ | id, next⟩ <;> simp only [openOurs, Act.run, hw]
  rw [hrun, ← walkTrying_snd, Call.tries]
  have hwalks := walks t peer 65535 t.nextId
  generalize t.walkTrying peer 65535 t.nextId = r at hwalks
  cases hwalks with
  | @first n _ htaken hfree =>
    rw [List.iterate_add]
    refine .first (fun k hk => ?_) hfree
    obtain ⟨m, hm, rfl⟩ := List.mem_iterate.1 hk
    exact htaken m hm
  | full htaken =>
    refine .full (List.length_iterate ..) (fun id hid => ?_) fun id hid => ?_
    · obtain ⟨n, hn, rfl⟩ := exists_following_iterate h hid
      exact List.mem_iterate.2 ⟨n, hn, rfl⟩
    · obtain ⟨n, hn, rfl⟩ := List.mem_iterate.1 hid
      exact htaken n hn

/-- A number is given out if and only if one is left for the peer. -/
theorem Picks.isOk_iff {ids : List UInt16} {r : Except Error UInt16} (h : Picks t peer ids r)
    (hids : 0 ∉ ids) : (∃ id, r = .ok id) ↔ ∃ id ≠ 0, t.find? peer id = none := by
  cases h with
  | @first taken id hlive hfree =>
    refine iff_of_true ⟨id, rfl⟩ ⟨id, ?_, hfree⟩
    rintro rfl
    exact hids (List.mem_append_right _ (List.mem_singleton.2 rfl))
  | full _ hall hlive =>
    refine iff_of_false nofun ?_
    rintro ⟨id, hid, hfree⟩
    exact hlive id (hall id hid) hfree

/-! ## All calls -/

/-- The numbers of the walk, counted from 0. -/
def number (n : Nat) : UInt16 :=
  .ofNat (n % 65535 + 1)

theorem toNat_number (n : Nat) : (number n).toNat = n % 65535 + 1 := by
  rw [number, UInt16.toNat_ofNat']
  omega

theorem number_eq (n : Nat) : number n = following^[n] 1 := by
  apply UInt16.toNat_inj.1
  rw [toNat_number, toNat_following_iterate (by decide), UInt16.toNat_one, Nat.sub_self, Nat.zero_add]

/-- A number that is given out is the last of those that are tried. -/
theorem tries_of_opened {reason : String} {id : UInt16} {ids : List UInt16} (hnext : t.nextId ≠ 0)
    (h : StepTrying t (.open peer reason .ours) (.ok (.opened id), ids) u) :
    ∃ taken, ids = taken ++ [id] := by
  obtain ⟨⟨t', hrun, -⟩, hids⟩ := h
  have hopened : ((openOurs peer reason).run t).1.map Answer.opened = .ok (.opened id) :=
    (congrArg Prod.fst (Act.run_map _ _ _)).symm.trans (congrArg Prod.fst hrun)
  have hpicks := picks hnext peer reason
  rw [← hids] at hpicks
  generalize ((openOurs peer reason).run t).1 = r at hpicks hopened
  cases hpicks with
  | first =>
    cases hopened
    exact ⟨_, rfl⟩
  | full => cases hopened

/-- Between two conversations with one number all other numbers are tried. -/
theorem tried_between {between after : List Turn}
    {peer peer' : Handle} {reason reason' : String} {id : UInt16} {ids ids' : List UInt16}
    (hnext : t.nextId ≠ 0)
    (h : Trace StepTrying t ((.open peer reason .ours, .ok (.opened id), ids) ::
      (between ++ (.open peer' reason' .ours, .ok (.opened id), ids') :: after)) u) :
    ∀ k ≠ 0, k ≠ id → k ∈ tried between ++ ids' := by
  obtain ⟨s, hopen, h⟩ := h.of_cons
  obtain ⟨s', hbetween, h⟩ := h.of_append
  obtain ⟨v, hagain, -⟩ := h.of_cons
  obtain ⟨taken, rfl⟩ := tries_of_opened hnext hopen
  obtain ⟨hid, hs⟩ := (step_goesOn hopen).of_snoc
  obtain ⟨taken', rfl⟩ := tries_of_opened
    ((trace_goesOn hbetween).ne_zero (hs ▸ following_ne_zero id)).1 hagain
  have hround := (trace_goesOn hbetween).append (step_goesOn hagain)
  rw [hs, ← List.append_assoc] at hround
  rw [← List.append_assoc]
  intro k hk hne
  exact List.mem_append_left _ (hround.of_snoc.1.round (hid.ne_zero hnext).1 k hk hne)

/-- Whatever calls are made on a new tracker, the numbers tried are those of one walk. Each conversation
of this node gets the first that is not open with its peer, and one of them if there is any; none comes
again before all others have been tried. -/
theorem numbers_walk {tr : List Turn}
    (h : Trace StepTrying {} tr t) :
    (∃ n, tried tr = (List.range n).map number) ∧ 0 ∉ tried tr ∧
    (∀ peer reason, Picks t peer (Call.tries t (.open peer reason .ours)) ((openOurs peer reason).run t).1 ∧
      ((∃ id, ((openOurs peer reason).run t).1 = .ok id) ↔ ∃ id ≠ 0, t.find? peer id = none)) ∧
    ∀ before between after peer peer' reason reason' id ids ids',
      tr = before ++ (.open peer reason .ours, .ok (.opened id), ids) ::
        (between ++ (.open peer' reason' .ours, .ok (.opened id), ids') :: after) →
      ∀ k ≠ 0, k ≠ id → k ∈ tried between ++ ids' := by
  have hwalk := trace_goesOn h
  obtain ⟨hnext, hzero⟩ := hwalk.ne_zero (by decide)
  refine ⟨⟨(tried tr).length, hwalk.1.trans ?_⟩, hzero, fun peer reason => ?_, ?_⟩
  · rw [← List.range_map_iterate]
    exact List.map_congr_left fun n _ => (number_eq n).symm
  · have hpicks := picks hnext peer reason
    exact ⟨hpicks, hpicks.isOk_iff ((act_goesOn _ t).ne_zero hnext).2⟩
  · rintro before between after peer peer' reason reason' id ids ids' rfl
    obtain ⟨s, hbefore, hrest⟩ := h.of_append
    exact tried_between ((trace_goesOn hbefore).ne_zero (by decide)).1 hrest

/-- One conversation after another, each closed before the next begins. -/
def turn (n : Nat) : List Turn :=
  [(.open ⟨1⟩ "ping" .ours, .ok (.opened (number n)), [number n]),
    (.close .ours ⟨1⟩ (number n), .ok (.closed ⟨number n, ⟨1⟩, "ping", true⟩), [])]

theorem number_succ (n : Nat) : following (number n) = number (n + 1) := by
  rw [number_eq, number_eq, Function.iterate_succ_apply']

theorem trace_turn (n : Nat) :
    Trace StepTrying { nextId := number n } (turn n) { nextId := number (n + 1) } := by
  let c : Conversation := ⟨number n, ⟨1⟩, "ping", true⟩
  have hclose : (closeOurs ⟨1⟩ c.id).run { opened := [c], nextId := number (n + 1) } =
      (.ok c, { nextId := number (n + 1) }) :=
    run_closeIf_fresh (t := { nextId := number (n + 1) }) (c := c) rfl rfl rfl
  rw [← number_succ] at hclose ⊢
  refine .snoc (.snoc .nil ⟨⟨_, rfl, .refl _, rfl⟩, rfl⟩) ⟨⟨_, ?_, .refl _, rfl⟩, rfl⟩
  exact (Act.run_map _ _ _).trans (congrArg (fun r => (r.1.map Answer.closed, r.2)) hclose)

/-- Turns in a row, up to any number. -/
theorem trace_turns (n k : Nat) :
    Trace StepTrying { nextId := number n } ((List.range k).flatMap fun i => turn (n + i))
      { nextId := number (n + k) } := by
  induction k with
  | zero => exact .nil
  | succ k ih =>
    rw [List.range_succ, List.flatMap_append, List.flatMap_singleton]
    exact ih.trans (trace_turn (n + k))

/-- With every conversation closed before the next begins, the first number comes again for another
peer, after all others. -/
theorem number_again :
    let begun (peer : Handle) : Turn :=
      (.open peer "ping" .ours, .ok (.opened 1), [1])
    ∃ between t, Trace StepTrying {} (begun ⟨1⟩ :: (between ++ [begun ⟨2⟩])) t ∧
      ∀ k ≠ 0, k ≠ 1 → k ∈ tried between := by
  intro begun
  obtain ⟨turns, hturns⟩ : ∃ turns, Trace StepTrying { nextId := number 0 } (turn 0 ++ turns)
      { nextId := number (1 + 65534) } := ⟨_, (trace_turn 0).trans (trace_turns 1 65534)⟩
  have hfirst : number 0 = 1 := by decide
  have hlast : number (1 + 65534) = 1 := by decide
  rw [hfirst, hlast, turn, hfirst] at hturns
  let closed : Turn :=
    (.close .ours ⟨1⟩ 1, .ok (.closed ⟨1, ⟨1⟩, "ping", true⟩), [])
  have htrace : Trace StepTrying {} (begun ⟨1⟩ :: ((closed :: turns) ++ [begun ⟨2⟩])) _ :=
    hturns.snoc ⟨⟨_, rfl, .refl _, rfl⟩, rfl⟩
  have hall := (numbers_walk htrace).2.2.2 [] (closed :: turns) [] _ _ _ _ 1 _ _ rfl
  refine ⟨closed :: turns, _, htrace, fun k hk hne => ?_⟩
  exact (List.mem_append.1 (hall k hk hne)).resolve_right fun hmem => hne (List.mem_singleton.1 hmem)

end Multilink.Tracker
