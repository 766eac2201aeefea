import Multilink.Proofs.Rounds
/-!
# Stops against sleeps

A node that is stopped should not fall asleep any more. The stop is looked at in the wait for the
deadline alone. One that comes before the run or in a wait ends the run there. One that comes in the
hook is seen in the next wait, and there is a next wait only if the hook also vetoes and its veto is
granted; otherwise the node sleeps (`Orchestrator.stop_wins_iff`).

Whether there is room for a veto is looked at in the state that the hook leaves, since the hook may have
asked for time itself. It may even have slept; what counts is what the run does after its last wait began.
-/

namespace Multilink

/-- The hook takes no sleep back that has been asked for. -/
def Surroundings.KeepsSleeps (around : Surroundings) : Prop :=
  ∀ f, around.hook = some f → ∀ o : Orchestrator, o.sleeps <+: (f o).2.sleeps

/-- The hook does not sleep itself. -/
def Surroundings.Sleepless (around : Surroundings) : Prop :=
  ∀ f, around.hook = some f → ∀ o : Orchestrator,
    (f o).2.sleeps = o.sleeps ∧ (f o).2.window.cycles = o.window.cycles

namespace Orchestrator

variable {around : Surroundings} {n : Nat} {o u w : Orchestrator}

theorem sleeps_prefix_answered (hkeeps : around.KeepsSleeps) (o : Orchestrator) :
    o.sleeps <+: (o.answered around).sleeps := by
  unfold answered callHook
  cases hhook : around.hook with
  | none => exact List.prefix_refl _
  | some f => exact hkeeps f hhook o.awaited

theorem answered_sleepless (hsleepless : around.Sleepless) (o : Orchestrator) :
    (o.answered around).sleeps = o.sleeps ∧
      (o.answered around).window.cycles = o.window.cycles := by
  unfold answered callHook
  cases hhook : around.hook with
  | none => exact ⟨rfl, rfl⟩
  | some f => exact hsleepless f hhook o.awaited

/-- No sleep has been taken before a wait, if the hook takes none. -/
theorem waitAt_sleepless (hsleepless : around.Sleepless) (hu : waitAt around o n = some u) :
    u.sleeps = o.sleeps ∧ u.window.cycles = o.window.cycles := by
  induction n generalizing u with
  | zero =>
    cases hu
    exact ⟨rfl, rfl⟩
  | succ n ih =>
    obtain ⟨w, hw, hround⟩ := waitAt_succ_eq_some_iff.1 hu
    obtain ⟨-, -, rfl⟩ := round_eq_inr_iff.1 hround
    obtain ⟨hsleeps, hcycles⟩ := ih hw
    obtain ⟨hsleeps', hcycles'⟩ := answered_sleepless hsleepless w
    exact ⟨hsleeps'.trans hsleeps, hcycles'.trans hcycles⟩

/-! ## Stops -/

/-- The hook is called at the end of this wait, and the node is stopped before it has answered. -/
def StopsInHook (around : Surroundings) (u : Orchestrator) : Prop :=
  ¬ Stops around u ∧ (u.answered around).stopped = true

/-- The node is stopped before it asks for the sleep. -/
inductive StopComes (around : Surroundings) (o : Orchestrator) : Prop
  | before : o.stopped = true → StopComes around o
  | waiting {n : Nat} {u : Orchestrator} : waitAt around o n = some u →
      around.stopInWait u = true → u.clock < u.window.deadline → StopComes around o
  | asked {n : Nat} {u : Orchestrator} : waitAt around o n = some u → StopsInHook around u →
      StopComes around o

/-- A stop in the hook is seen in the next wait, if the sleep is vetoed. -/
theorem stops_of_vetoes (hu : waitAt around o n = some u) (hstops : StopsInHook around u)
    (hvetoes : Vetoes around u) : ∃ w, waitAt around o (n + 1) = some w ∧ Stops around w := by
  have hround : u.round around (.ofNat n) = .inr (u.answered around).extended :=
    round_eq_inr_iff.2 ⟨hstops.1, hvetoes, rfl⟩
  exact ⟨_, waitAt_succ_eq_some_iff.2 ⟨u, hu, hround⟩, .inl hstops.2⟩

/-- A stop that comes is seen in a wait, or comes in the hook and is not. -/
theorem StopComes.cases_wait (h : StopComes around o) :
    (∃ n u, waitAt around o n = some u ∧ Stops around u) ∨
      ∃ n u, waitAt around o n = some u ∧ StopsInHook around u ∧ ¬ Vetoes around u := by
  cases h with
  | before hstopped => exact .inl ⟨0, o, rfl, .inl hstopped⟩
  | waiting hu hcomes hlt => exact .inl ⟨_, _, hu, .inr ⟨hcomes, hlt⟩⟩
  | @asked n u hu hstops =>
    by_cases hvetoes : Vetoes around u
    · obtain ⟨w, hw, hseen⟩ := stops_of_vetoes hu hstops hvetoes
      exact .inl ⟨_, w, hw, hseen⟩
    · exact .inr ⟨n, u, hu, hstops, hvetoes⟩

/-- What a run comes to that is stopped, seen from its last wait: no sleep is asked for, none is
reported and no cycle is completed. -/
def Abstains (u : Orchestrator) (report : SleepReport) (o' : Orchestrator) : Prop :=
  o'.sleeps = u.sleeps ∧ report.slept = 0 ∧ o'.window.cycles = u.window.cycles

/-- A run that is stopped before it asks for the sleep ends, and it ends without a sleep exactly if
no call of the hook in which the node was stopped let it sleep: by allowing the sleep, or by a veto that
the timebox had no room for. Before the last wait it has not slept, unless the hook has. -/
theorem stop_wins_iff (hkeeps : around.KeepsSleeps) (hcomes : StopComes around o) :
    (∃ fuel r, o.takeControl around fuel 0 = some r) ∧
    ∀ fuel report o', o.takeControl around fuel 0 = some (report, o') →
      ∃ n u, waitAt around o n = some u ∧ waitAt around o (n + 1) = none ∧
        (Abstains u report o' ↔
          ∀ m w, waitAt around o m = some w → StopsInHook around w → Vetoes around w) ∧
        (around.Sleepless → u.sleeps = o.sleeps ∧ u.window.cycles = o.window.cycles) := by
  obtain ⟨n, u, hu, hseen⟩ | ⟨n, u, hu, hstops, hvetoes⟩ := hcomes.cases_wait
  · have hround := round_of_stops (.ofNat n) hseen
    refine ⟨⟨n + 1, _, takeControl_of_last hu hround⟩, fun fuel report o' hrun => ?_⟩
    cases eq_of_last hu hround hrun
    refine ⟨n, u, hu, waitAt_of_lt hu hround (Nat.lt_succ_self n), ?_,
      fun hsleepless => waitAt_sleepless hsleepless hu⟩
    refine iff_of_true ⟨rfl, rfl, rfl⟩ fun k v hv hstops => ?_
    -- a sleep after the hook would end the run as well, but it has ended with the stop
    refine Classical.byContradiction fun hvetoes => ?_
    obtain ⟨_, _, hslept⟩ := round_of_not_vetoes (.ofNat k) hstops.1 hvetoes
    obtain ⟨rfl, rfl⟩ := last_unique hu hround hv hslept
    exact hstops.1 hseen
  · obtain ⟨counted, forced, hround⟩ := round_of_not_vetoes (.ofNat n) hstops.1 hvetoes
    refine ⟨⟨n + 1, _, takeControl_of_last hu hround⟩, fun fuel report o' hrun => ?_⟩
    cases eq_of_last hu hround hrun
    refine ⟨n, u, hu, waitAt_of_lt hu hround (Nat.lt_succ_self n), ?_,
      fun hsleepless => waitAt_sleepless hsleepless hu⟩
    refine iff_of_false (fun ⟨hsleeps, _, _⟩ => ?_) fun h => hvetoes (h n u hu hstops)
    have hkept := (sleeps_prefix_answered hkeeps u).length_le
    have hlength : (u.answered around).sleeps.length + 1 = u.sleeps.length := by
      rw [← hsleeps]
      exact (List.length_append : ((u.answered around).sleeps ++ [_]).length = _).symm
    omega

/-- A node with short windows whose work has asked for nearly as much time as it can get. -/
def busy : Orchestrator :=
  ((make { awake := 1000, sleep := 5000, vetoSlice := 100 } 0).askForTime 900).2

/-- A hook that stops the node and vetoes the sleep. -/
def refusing : Surroundings where
  hook := some fun o => (true, o.stop)

theorem refusing_sleepless : refusing.Sleepless := by
  rintro f ⟨⟩ o
  exact ⟨rfl, rfl⟩

/-- The veto is refused, and the node sleeps although it has been stopped. -/
theorem asleep_after_stop :
    refusing.KeepsSleeps ∧ refusing.Sleepless ∧ StopComes refusing busy ∧
      ∃ fuel report o', busy.takeControl refusing fuel 0 = some (report, o') ∧
        o'.stopped = true ∧ report.forced = true ∧ ¬ Abstains busy report o' := by
  have hkeeps : refusing.KeepsSleeps := by
    rintro f ⟨⟩ o
    exact List.prefix_refl _
  have hrefused : ¬ Vetoes refusing busy := fun h => absurd h.2 (by decide)
  have hstops : StopsInHook refusing busy := ⟨by decide, rfl⟩
  have hcomes : StopComes refusing busy := .asked (n := 0) rfl hstops
  refine ⟨hkeeps, refusing_sleepless, hcomes, 1, _, _, rfl, rfl, rfl, fun habstains => ?_⟩
  obtain ⟨n, u, hu, -, hwins, hslept⟩ := (stop_wins_iff hkeeps hcomes).2 1 _ _ rfl
  obtain ⟨hsleeps, hcycles⟩ := hslept refusing_sleepless
  refine hrefused (hwins.1 ?_ 0 busy rfl hstops)
  exact ⟨habstains.1.trans hsleeps.symm, habstains.2.1, habstains.2.2.trans hcycles.symm⟩

end Orchestrator

end Multilink
