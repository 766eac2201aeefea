import Multilink.Orchestrator
/-!
# Rounds

Running a window out takes rounds. In each the node waits for the deadline and calls the hook, and a
veto that the timebox still has room for moves the deadline and leads to another round.
`Orchestrator.round` is one round, and `Orchestrator.round_cases` is all that it can come to.

`Orchestrator.waitAt` are the states in which the waits of a run begin. The round that begins in the
last of them is the one that decides (`Orchestrator.exists_last`).
-/

namespace Multilink

theorem Micros.toNat_top : Micros.top.toNat = 0xFFFFFFFFFFFFFFFF := rfl

theorem Micros.toNat_max (a b : Micros) : (max a b).toNat = max a.toNat b.toNat := by
  rw [show max a b = if a ≤ b then b else a from rfl]
  simp only [UInt64.le_iff_toNat_le]
  split <;> omega

namespace Orchestrator

variable {around : Surroundings} {fuel n m : Nat} {vetoes : UInt32} {o u w : Orchestrator}
variable {r r' : SleepReport × Orchestrator}

/-! ## One round -/

/-- A wait for the deadline, and the call of the hook after it: the end of the run, or the state in
which the next round begins. -/
def round (around : Surroundings) (vetoes : UInt32) (o : Orchestrator) :
    (SleepReport × Orchestrator) ⊕ Orchestrator :=
  match o.waitForDeadline (around.stopInWait o) with
  | (false, o) => .inl (⟨o.awakeSoFar, 0, vetoes, false⟩, o)
  | (true, o) =>
    match o.callHook around.hook with
    | (false, o) => .inl (o.sleepAndBegin vetoes false)
    | (true, o) =>
      match o.askForTime o.timings.vetoSlice with
      | (true, o) => .inr o
      | (false, o) => .inl (o.sleepAndBegin (vetoes + 1) true)

theorem takeControl_succ (around : Surroundings) (fuel : Nat) (vetoes : UInt32) (o : Orchestrator) :
    takeControl around (fuel + 1) vetoes o =
      match o.round around vetoes with
      | .inl r => some r
      | .inr u => takeControl around fuel (vetoes + 1) u := by
  rw [takeControl, round]
  rcases o.waitForDeadline (around.stopInWait o) with ⟨_ | _, o₁⟩
  · rfl
  · dsimp only
    rcases o₁.callHook around.hook with ⟨_ | _, o₂⟩
    · rfl
    · dsimp only
      rcases o₂.askForTime o₂.timings.vetoSlice with ⟨_ | _, o₃⟩ <;> rfl

/-- The node is stopped when the wait of this round begins, or while it lasts. -/
def Stops (around : Surroundings) (o : Orchestrator) : Prop :=
  o.stopped = true ∨ around.stopInWait o = true ∧ o.clock < o.window.deadline

instance (around : Surroundings) : DecidablePred (Stops around) := fun o =>
  inferInstanceAs (Decidable (o.stopped = true ∨ _))

/-- The time at which the wait ends. -/
def due (o : Orchestrator) : Micros :=
  max o.window.deadline o.clock

/-- The wait has come to its end. -/
def awaited (o : Orchestrator) : Orchestrator :=
  { o with clock := o.due }

/-- Does the hook veto the sleep, at the end of the wait? Without a hook nothing does. -/
def vetoed (around : Surroundings) (o : Orchestrator) : Bool :=
  (callHook around.hook o.awaited).1

/-- The hook has been called, at the end of the wait. -/
def answered (around : Surroundings) (o : Orchestrator) : Orchestrator :=
  (callHook around.hook o.awaited).2

/-- The timebox has room for another slice. -/
def Grants (o : Orchestrator) : Prop :=
  o.totalWith (.ofNat o.timings.vetoSlice) < (Micros.ofNat o.timings.awake).twice

instance : DecidablePred Grants := fun o =>
  inferInstanceAs (Decidable (o.totalWith _ < _))

/-- The window ends one slice later. -/
def extended (o : Orchestrator) : Orchestrator :=
  { o with window := { o.window with deadline := o.due.plus (.ofNat o.timings.vetoSlice) } }

theorem toNat_due (o : Orchestrator) : o.due.toNat = max o.window.deadline.toNat o.clock.toNat :=
  Micros.toNat_max _ _

theorem waitForDeadline_cases (stopComes : Bool) (o : Orchestrator) :
    ((o.stopped = true ∨ stopComes = true ∧ o.clock < o.window.deadline) ∧
      o.waitForDeadline stopComes = (false, o.stop)) ∨
    (¬ (o.stopped = true ∨ stopComes = true ∧ o.clock < o.window.deadline) ∧
      o.waitForDeadline stopComes = (true, o.awaited)) := by
  have hmax : o.due = if o.window.deadline ≤ o.clock then o.clock else o.window.deadline := rfl
  unfold waitForDeadline awaited
  split
  · next hstopped => exact .inl ⟨.inl hstopped, by rw [stop, ← hstopped]⟩
  · next hrunning =>
    split
    · next hle =>
      refine .inr ⟨?_, by rw [hmax, if_pos hle]⟩
      rintro (hstopped | ⟨-, hlt⟩)
      · exact hrunning hstopped
      · rw [UInt64.lt_iff_toNat_lt] at hlt
        rw [UInt64.le_iff_toNat_le] at hle
        omega
    · next hnot =>
      have hlt : o.clock < o.window.deadline := by
        rw [UInt64.le_iff_toNat_le] at hnot
        rw [UInt64.lt_iff_toNat_lt]
        omega
      split
      · next hcomes => exact .inl ⟨.inr ⟨hcomes, hlt⟩, rfl⟩
      · next hcomes =>
        exact .inr ⟨fun h => h.elim hrunning fun h => hcomes h.1, by rw [hmax, if_neg hnot]⟩

theorem askForTime_of_grants (h : o.Grants) :
    o.askForTime o.timings.vetoSlice = (true, o.extended) :=
  if_pos h

theorem askForTime_of_not_grants (h : ¬ o.Grants) :
    o.askForTime o.timings.vetoSlice = (false, o) :=
  if_neg h

/-- All that a round can come to. -/
theorem round_cases (around : Surroundings) (vetoes : UInt32) (o : Orchestrator) :
    (Stops around o ∧ o.round around vetoes = .inl (⟨o.awakeSoFar, 0, vetoes, false⟩, o.stop)) ∨
    (¬ Stops around o ∧ o.vetoed around = false ∧
      o.round around vetoes = .inl ((o.answered around).sleepAndBegin vetoes false)) ∨
    (¬ Stops around o ∧ o.vetoed around = true ∧ ¬ (o.answered around).Grants ∧
      o.round around vetoes = .inl ((o.answered around).sleepAndBegin (vetoes + 1) true)) ∨
    (¬ Stops around o ∧ o.vetoed around = true ∧ (o.answered around).Grants ∧
      o.round around vetoes = .inr (o.answered around).extended) := by
  unfold round vetoed answered
  obtain ⟨hstops, hwait⟩ | ⟨hstops, hwait⟩ := waitForDeadline_cases (around.stopInWait o) o
  · rw [hwait]
    exact .inl ⟨hstops, rfl⟩
  · rw [hwait]
    dsimp only
    rcases o.awaited.callHook around.hook with ⟨_ | _, t⟩
    · exact .inr (.inl ⟨hstops, rfl, rfl⟩)
    · dsimp only
      by_cases hgrants : t.Grants
      · rw [askForTime_of_grants hgrants]
        exact .inr (.inr (.inr ⟨hstops, rfl, hgrants, rfl⟩))
      · rw [askForTime_of_not_grants hgrants]
        exact .inr (.inr (.inl ⟨hstops, rfl, hgrants, rfl⟩))

/-- The hook vetoes the sleep, and the timebox has room for the veto. -/
def Vetoes (around : Surroundings) (u : Orchestrator) : Prop :=
  u.vetoed around = true ∧ (u.answered around).Grants

/-- A round leads to another one exactly if the hook is called and its veto is granted. -/
theorem round_eq_inr_iff : u.round around vetoes = .inr w ↔
    ¬ Stops around u ∧ Vetoes around u ∧ (u.answered around).extended = w := by
  obtain ⟨hstops, h⟩ | ⟨hstops, hallows, h⟩ | ⟨hstops, -, hrefused, h⟩ | ⟨hstops, hveto, hgrants, h⟩ :=
    round_cases around vetoes u
  · simp [h, hstops]
  · simp [h, Vetoes, hallows]
  · simp [h, Vetoes, hrefused]
  · simp [h, hstops, Vetoes, hveto, hgrants]

theorem round_of_stops (vetoes : UInt32) (h : Stops around o) :
    o.round around vetoes = .inl (⟨o.awakeSoFar, 0, vetoes, false⟩, o.stop) := by
  obtain ⟨-, hround⟩ | ⟨hnot, -⟩ | ⟨hnot, -⟩ | ⟨hnot, -⟩ := round_cases around vetoes o
  · exact hround
  all_goals exact absurd h hnot

theorem not_stops (hrunning : u.stopped = false) (hwaits : around.stopInWait u = false) :
    ¬ Stops around u := by
  rintro (hstopped | ⟨hcomes, -⟩)
  · cases hrunning.symm.trans hstopped
  · cases hwaits.symm.trans hcomes

/-- A hook that allows the sleep is followed by it. -/
theorem round_of_allows (vetoes : UInt32) (hnot : ¬ Stops around u) (hallows : u.vetoed around = false) :
    u.round around vetoes = .inl ((u.answered around).sleepAndBegin vetoes false) := by
  obtain ⟨hstops, -⟩ | ⟨-, -, hround⟩ | ⟨-, hveto, -⟩ | ⟨-, hveto, -⟩ := round_cases around vetoes u
  · exact absurd hstops hnot
  · exact hround
  · cases hallows.symm.trans hveto
  · cases hallows.symm.trans hveto

/-- Unless it vetoes the sleep and is granted more time, the hook is followed by the sleep. -/
theorem round_of_not_vetoes (vetoes : UInt32) (hnot : ¬ Stops around u) (hvetoes : ¬ Vetoes around u) :
    ∃ counted forced,
      u.round around vetoes = .inl ((u.answered around).sleepAndBegin counted forced) := by
  obtain ⟨hstops, -⟩ | ⟨-, -, hround⟩ | ⟨-, -, -, hround⟩ | ⟨-, hveto, hgrants, -⟩ :=
    round_cases around vetoes u
  · exact absurd hstops hnot
  · exact ⟨_, _, hround⟩
  · exact ⟨_, _, hround⟩
  · exact absurd ⟨hveto, hgrants⟩ hvetoes

theorem isSome_hook_of_vetoed (h : u.vetoed around = true) : around.hook.isSome = true := by
  cases hhook : around.hook with
  | none =>
    rw [vetoed, hhook] at h
    cases h
  | some _ => rfl

theorem hookCalls_answered_le (around : Surroundings) (o : Orchestrator) :
    (o.answered around).hookCalls ≤ o.hookCalls + 1 := by
  unfold answered callHook
  cases around.hook with
  | none => exact Nat.le_succ _
  | some _ => exact Nat.le_refl _

/-! ## The waits of a run -/

/-- The state in which the wait begins that so many come before, if the run gets so far. -/
def waitAt (around : Surroundings) (o : Orchestrator) : Nat → Option Orchestrator
  | 0 => some o
  | n + 1 => (waitAt around o n).bind fun u => (u.round around (.ofNat n)).getRight?

theorem waitAt_succ_eq_some_iff : waitAt around o (n + 1) = some w ↔
    ∃ u, waitAt around o n = some u ∧ u.round around (.ofNat n) = .inr w := by
  simp only [waitAt, Option.bind_eq_some_iff, Sum.getRight?_eq_some_iff]

/-- The last wait has nothing after it. -/
theorem waitAt_of_lt (hu : waitAt around o n = some u) (hround : u.round around (.ofNat n) = .inl r)
    (h : n < m) : waitAt around o m = none := by
  induction m with
  | zero => omega
  | succ m ih =>
    refine Option.eq_none_iff_forall_ne_some.2 fun w hw => ?_
    obtain ⟨v, hv, hnext⟩ := waitAt_succ_eq_some_iff.1 hw
    obtain hlt | rfl := Nat.lt_succ_iff_lt_or_eq.1 h
    · cases (ih hlt).symm.trans hv
    · cases hu.symm.trans hv
      cases hround.symm.trans hnext

/-- A run has one last wait. -/
theorem last_unique (hu : waitAt around o n = some u) (hround : u.round around (.ofNat n) = .inl r)
    (hw : waitAt around o m = some w) (hround' : w.round around (.ofNat m) = .inl r') :
    m = n ∧ w = u := by
  obtain hlt | rfl | hlt := Nat.lt_trichotomy m n
  · cases (waitAt_of_lt hw hround' hlt).symm.trans hu
  · exact ⟨rfl, Option.some.inj (hw.symm.trans hu)⟩
  · cases (waitAt_of_lt hu hround hlt).symm.trans hw

/-- The run goes on from its waits, with the vetoes counted so far. -/
theorem takeControl_waitAt (hu : waitAt around o n = some u) (fuel : Nat) :
    takeControl around (n + fuel) 0 o = takeControl around fuel (.ofNat n) u := by
  induction n generalizing u fuel with
  | zero =>
    cases hu
    rw [Nat.zero_add]
    rfl
  | succ n ih =>
    obtain ⟨w, hw, hround⟩ := waitAt_succ_eq_some_iff.1 hu
    rw [Nat.add_right_comm, Nat.add_assoc, ih hw, takeControl_succ, hround, UInt32.ofNat_add]
    rfl

theorem takeControl_of_last (hu : waitAt around o n = some u)
    (hround : u.round around (.ofNat n) = .inl r) : takeControl around (n + 1) 0 o = some r := by
  rw [takeControl_waitAt hu, takeControl_succ, hround]

/-- A run that ends does so in its last wait. -/
theorem exists_last (hrun : takeControl around fuel 0 o = some r) :
    ∃ m w, waitAt around o m = some w ∧ w.round around (.ofNat m) = .inl r := by
  suffices ∀ fuel n u, waitAt around o n = some u → takeControl around fuel (.ofNat n) u = some r →
      ∃ m w, waitAt around o m = some w ∧ w.round around (.ofNat m) = .inl r from
    this fuel 0 o rfl hrun
  intro fuel
  induction fuel with
  | zero => exact fun _ _ _ h => nomatch h
  | succ fuel ih =>
    intro n u hu hrun
    rw [takeControl_succ] at hrun
    cases hround : u.round around (.ofNat n) with
    | inl _ =>
      rw [hround] at hrun
      cases hrun
      exact ⟨n, u, hu, hround⟩
    | inr w =>
      rw [hround] at hrun
      refine ih (n + 1) w (waitAt_succ_eq_some_iff.2 ⟨u, hu, hround⟩) ?_
      rw [UInt32.ofNat_add]
      exact hrun

/-- A run comes to what its last round comes to. -/
theorem eq_of_last (hu : waitAt around o n = some u) (hround : u.round around (.ofNat n) = .inl r)
    (hrun : takeControl around fuel 0 o = some r') : r = r' := by
  obtain ⟨m, w, hw, hlast⟩ := exists_last hrun
  obtain ⟨rfl, rfl⟩ := last_unique hu hround hw hlast
  exact Sum.inl.inj (hround.symm.trans hlast)

end Orchestrator

end Multilink
