import Multilink.Proofs.Forecasts
import Multilink.Proofs.Vetoes
/-!
# What running a window out reports

A node that nothing stops and whose hook leaves it alone waits until its deadline, and one slice longer
for every veto that is granted. `Orchestrator.Waiting` is the state in which the wait begins after so
many of them: it is what each round keeps, and the last round turns it into the sleep and its report
(`Orchestrator.takeControl_report`). The vetoes are counted in 32 bits.

All this is about sums that are times. `Orchestrator.Unclipped` says that none of them is cut off.
-/

namespace Multilink.Orchestrator

variable {around : Surroundings} {fuel i k n : Nat} {o o' u : Orchestrator} {report : SleepReport}
variable {r : SleepReport × Orchestrator}

/-- Nothing stops the node, neither before nor while it waits, and all that the hook does is to
answer. -/
structure Undisturbed (around : Surroundings) (o : Orchestrator) : Prop where
  running : o.stopped = false
  waits : ∀ u, around.stopInWait u = false
  hook : ∀ f, around.hook = some f → ∀ u : Orchestrator, (f u).2 = u

/-- In the run this call of the hook, counted from zero, is made, and its veto is granted. -/
def Granted (around : Surroundings) (o : Orchestrator) (i : Nat) : Prop :=
  ∃ u, waitAt around o i = some u ∧ ¬ Stops around u ∧ Vetoes around u

/-- When the node sleeps after so many vetoes that were granted. -/
def bedtime (o : Orchestrator) (k : Nat) : Nat :=
  max o.clock.toNat o.window.deadline.toNat + k * o.timings.vetoSlice

/-- No time is cut off at zero or at the largest one if so many vetoes are granted: the node does not
go to sleep before its window began, and the timebox and the next window end in time. -/
structure Unclipped (o : Orchestrator) (k : Nat) : Prop where
  start : o.window.start.toNat ≤ o.bedtime 0
  timebox : 2 * o.timings.awake < 0x10000000000000000
  window : o.bedtime k + o.timings.sleep + o.timings.awake < 0x10000000000000000

/-- The run ends in a sleep, after so many vetoes that were granted. Its last wait began in `u`. -/
structure Slept (around : Surroundings) (o : Orchestrator) (k : Nat) (u : Orchestrator)
    (report : SleepReport) (o' : Orchestrator) : Prop where
  slept : report.slept = o.timings.sleep
  sleeps : o'.sleeps = o.sleeps ++ [o.timings.sleep]
  asleep : (u.answered around).clock.toNat = o.bedtime k ∧
    (report, o') = (u.answered around).sleepAndBegin report.vetoes report.forced
  awake : o.window.start.toNat + report.awake.toNat = o.bedtime k
  inTimebox : 0 < k → report.awake.toNat < 2 * o.timings.awake
  calls : around.hook.isSome = true → o'.hookCalls = o.hookCalls + k + 1
  forced_iff : report.forced = true ↔ u.vetoed around = true ∧
    o.window.start.toNat + 2 * o.timings.awake ≤ o.bedtime k + o.timings.vetoSlice
  vetoes : report.vetoes = .ofNat (if report.forced then k + 1 else k)
  cycles : o'.window.cycles = o.window.cycles + 1
  start : o'.window.start.toNat = o.bedtime k + o.timings.sleep
  deadline : o'.window.deadline.toNat = o'.window.start.toNat + o.timings.awake

/-! ## The vetoes that are granted -/

theorem granted_of_lt (hu : waitAt around o k = some u) (h : i < k) : Granted around o i := by
  induction k generalizing u with
  | zero => cases h
  | succ k ih =>
    obtain ⟨w, hw, hround⟩ := waitAt_succ_eq_some_iff.1 hu
    obtain ⟨hstops, hvetoes, -⟩ := round_eq_inr_iff.1 hround
    obtain hlt | rfl := Nat.lt_succ_iff_lt_or_eq.1 h
    · exact ih hw hlt
    · exact ⟨w, hw, hstops, hvetoes⟩

/-- The granted vetoes are those before the last wait. -/
theorem granted_iff_lt (hu : waitAt around o k = some u) (hround : u.round around (.ofNat k) = .inl r) :
    Granted around o i ↔ i < k := by
  refine ⟨fun ⟨w, hw, hstops, hvetoes⟩ => ?_, granted_of_lt hu⟩
  have hnext : w.round around (.ofNat i) = .inr (w.answered around).extended :=
    round_eq_inr_iff.2 ⟨hstops, hvetoes, rfl⟩
  obtain hlt | rfl | hlt := Nat.lt_trichotomy i k
  · exact hlt
  · cases hu.symm.trans hw
    cases hround.symm.trans hnext
  · cases (waitAt_of_lt hu hround hlt).symm.trans hw

/-! ## The waits of a run that nothing disturbs -/

/-- The wait begins that so many granted vetoes come before. -/
structure Waiting (o : Orchestrator) (n : Nat) (u : Orchestrator) : Prop where
  running : u.stopped = false
  timings : u.timings = o.timings
  start : u.window.start = o.window.start
  cycles : u.window.cycles = o.window.cycles
  sleeps : u.sleeps = o.sleeps
  hookCalls : u.hookCalls = o.hookCalls + n
  due : u.due.toNat = o.bedtime n
  inTimebox : 0 < n → o.bedtime n < o.window.start.toNat + 2 * o.timings.awake

/-- The wait is over that so many granted vetoes come before, and the hook has answered. -/
structure Answered (around : Surroundings) (o : Orchestrator) (n : Nat) (t : Orchestrator) : Prop where
  running : t.stopped = false
  timings : t.timings = o.timings
  start : t.window.start = o.window.start
  cycles : t.window.cycles = o.window.cycles
  sleeps : t.sleeps = o.sleeps
  hookCalls : around.hook.isSome = true → t.hookCalls = o.hookCalls + n + 1
  clock : t.clock.toNat = o.bedtime n
  closed : t.window.deadline.toNat ≤ o.bedtime n

theorem bedtime_succ (o : Orchestrator) (n : Nat) :
    o.bedtime (n + 1) = o.bedtime n + o.timings.vetoSlice := by
  rw [bedtime, bedtime, Nat.succ_mul, Nat.add_assoc]

theorem bedtime_zero_le (o : Orchestrator) (n : Nat) : o.bedtime 0 ≤ o.bedtime n := by
  rw [bedtime, bedtime]
  omega

/-- A hook that only answers leaves the state of the end of the wait, but for the count of its calls. -/
theorem answered_undisturbed (hcalm : Undisturbed around o) (u : Orchestrator) :
    u.answered around =
      { u.awaited with hookCalls := if around.hook.isSome then u.hookCalls + 1 else u.hookCalls } := by
  unfold answered callHook
  cases hhook : around.hook with
  | none => rfl
  | some f =>
    dsimp only
    rw [hcalm.hook f hhook]
    rfl

theorem Waiting.answered (hcalm : Undisturbed around o) (hu : Waiting o n u) :
    Answered around o n (u.answered around) := by
  have hdue := toNat_due u
  rw [answered_undisturbed hcalm]
  refine ⟨hu.running, hu.timings, hu.start, hu.cycles, hu.sleeps, fun hhook => ?_, hu.due, ?_⟩
  · show (if around.hook.isSome then u.hookCalls + 1 else u.hookCalls) = _
    rw [if_pos hhook, hu.hookCalls]
  · show u.window.deadline.toNat ≤ _
    rw [← hu.due]
    omega

section Answered
variable {t : Orchestrator} (ht : Answered around o n t)
include ht

/-- A veto is granted exactly if the window stays below its limit. -/
theorem Answered.grants_iff :
    t.Grants ↔ o.bedtime n - o.window.start.toNat + o.timings.vetoSlice < o.limit := by
  have hclosed := ht.closed
  rw [Orchestrator.grants_iff, limit, limit, ht.clock, ht.start, ht.timings]
  omega

theorem Answered.toNat_awakeSoFar :
    t.awakeSoFar.toNat = o.bedtime n - o.window.start.toNat := by
  rw [awakeSoFar, Micros.toNat_minus, ht.clock, ht.start]

/-- The next window begins when the sleep ends. -/
theorem Answered.woken (hfits : o.bedtime n + o.timings.sleep < 0x10000000000000000) :
    (t.sleepFor t.timings.sleep).clock.toNat = o.bedtime n + o.timings.sleep := by
  have hclock := ht.clock
  rw [ht.timings, toNat_sleepFor (by omega), hclock]

end Answered

/-- A veto that is granted makes the node wait once more, one slice longer. -/
theorem Waiting.step (hcalm : Undisturbed around o) (hu : Waiting o n u)
    (hstart : o.window.start.toNat ≤ o.bedtime 0)
    (hfits : o.bedtime (n + 1) < 0x10000000000000000) (hvetoes : Vetoes around u) :
    Waiting o (n + 1) (u.answered around).extended := by
  have ht := hu.answered hcalm
  have hgrants := ht.grants_iff.1 hvetoes.2
  have hcalls := ht.hookCalls (isSome_hook_of_vetoed hvetoes.1)
  have hended := due_extended (u.answered around)
  rw [ht.timings, toNat_due (u.answered around), ht.clock, Nat.max_eq_right ht.closed,
    ← bedtime_succ, Micros.toNat_top] at hended
  rw [limit, Micros.toNat_top] at hgrants
  have hslice := bedtime_succ o n
  have hle := bedtime_zero_le o n
  exact ⟨ht.running, ht.timings, ht.start, ht.cycles, ht.sleeps, hcalls, by omega, fun _ => by omega⟩

theorem waiting (hcalm : Undisturbed around o) (hstart : o.window.start.toNat ≤ o.bedtime 0)
    (hfits : o.bedtime n < 0x10000000000000000) (hu : waitAt around o n = some u) :
    Waiting o n u := by
  induction n generalizing u with
  | zero =>
    cases hu
    have hdue := toNat_due o
    refine ⟨hcalm.running, rfl, rfl, rfl, rfl, rfl, ?_, nofun⟩
    rw [bedtime]
    omega
  | succ n ih =>
    obtain ⟨w, hw, hround⟩ := waitAt_succ_eq_some_iff.1 hu
    obtain ⟨-, hvetoes, rfl⟩ := round_eq_inr_iff.1 hround
    have hslice := bedtime_succ o n
    exact (ih (by omega) hw).step hcalm hstart hfits hvetoes

/-! ## The last round -/

/-- The last round ends in the sleep, which is forced if it was vetoed. -/
theorem exists_sleep (hcalm : Undisturbed around o) (hu : Waiting o k u)
    (hround : u.round around (.ofNat k) = .inl r) :
    ∃ forced, r = (u.answered around).sleepAndBegin (.ofNat (if forced then k + 1 else k)) forced ∧
      (forced = true ↔ u.vetoed around = true ∧ ¬ (u.answered around).Grants) := by
  obtain ⟨hstops, -⟩ | ⟨-, hallows, h⟩ | ⟨-, hveto, hrefused, h⟩ | ⟨-, -, -, h⟩ :=
    round_cases around (.ofNat k) u
  · exact absurd hstops (not_stops hu.running (hcalm.waits u))
  · cases hround.symm.trans h
    exact ⟨false, rfl, by simp [hallows]⟩
  · cases hround.symm.trans h
    refine ⟨true, ?_, by simp [hveto, hrefused]⟩
    rw [if_pos rfl, UInt32.ofNat_add]
    rfl
  · cases hround.symm.trans h

theorem Waiting.slept (hcalm : Undisturbed around o) (hu : Waiting o k u) (hclip : o.Unclipped k)
    (hround : u.round around (.ofNat k) = .inl (report, o')) : Slept around o k u report o' := by
  obtain ⟨hstart, htimebox, hwindow⟩ := hclip
  obtain ⟨forced, h, hforced⟩ := exists_sleep hcalm hu hround
  have hle := bedtime_zero_le o k
  have ht := hu.answered hcalm
  have hspent := ht.toNat_awakeSoFar
  have hwoken := ht.woken (by omega)
  rw [ht.grants_iff, limit, Micros.toNat_top] at hforced
  obtain ⟨rfl, rfl⟩ := Prod.mk.inj h
  refine ⟨congrArg (·.sleep) ht.timings, ?_, ⟨ht.clock, rfl⟩, ?_, fun hk => ?_, ht.hookCalls, ?_, rfl,
    congrArg (· + 1) ht.cycles, hwoken, ?_⟩
  · show (u.answered around).sleeps ++ [(u.answered around).timings.sleep] = _
    rw [ht.sleeps, ht.timings]
  · show _ + (u.answered around).awakeSoFar.toNat = _
    omega
  · show (u.answered around).awakeSoFar.toNat < _
    have := hu.inTimebox hk
    omega
  · rw [hforced]
    refine and_congr_right fun _ => ?_
    omega
  · show (Micros.plus (sleepFor _ _).clock (.ofNat _)).toNat = (sleepFor _ _).clock.toNat + _
    rw [Micros.toNat_plus, Micros.toNat_ofNat, hwoken, ht.timings]
    omega

/-- Whenever a node that nothing disturbs runs its window out, it sleeps once, for the length that it is
set to. So many vetoes are granted as there are slices between the deadline and the sleep; the sleep
is forced exactly if the hook vetoes it once more and the timebox has no room for that. The next
window begins when the sleep ends. -/
theorem takeControl_report (hcalm : Undisturbed around o)
    (hrun : o.takeControl around fuel 0 = some (report, o')) :
    ∃ k u, waitAt around o k = some u ∧ (∀ i, Granted around o i ↔ i < k) ∧
      (o.Unclipped k → Slept around o k u report o') := by
  obtain ⟨k, u, hu, hround⟩ := exists_last hrun
  refine ⟨k, u, hu, fun i => granted_iff_lt hu hround, fun hclip => ?_⟩
  have hwaiting : Waiting o k u := waiting hcalm hclip.start (by have := hclip.window; omega) hu
  exact hwaiting.slept hcalm hclip hround

/-- A hook that vetoes every sleep is granted three slices, and its fourth veto is refused. -/
theorem takeControl_report_forced :
    let o := make { awake := 1000, sleep := 5000, vetoSlice := 300 } 0
    ∃ u report o', Undisturbed vetoing o ∧ o.takeControl vetoing 4 0 = some (report, o') ∧
      o.bedtime 3 = 1900 ∧ Slept vetoing o 3 u report o' ∧ report.forced = true ∧
      report.vetoes = 4 ∧ o'.window.start.toNat = 6900 := by
  intro o
  have hcalm : Undisturbed vetoing o := ⟨rfl, fun _ => rfl, by rintro f ⟨⟩ u; rfl⟩
  obtain ⟨⟨report, o'⟩, hrun⟩ : ∃ r, o.takeControl vetoing 4 0 = some r :=
    Option.isSome_iff_exists.1 (by decide +kernel)
  obtain ⟨k, u, hu, hgranted, hslept⟩ := takeControl_report hcalm hrun
  have hthree : k = 3 := by
    let awake (clock deadline : Micros) (hookCalls : Nat) : Orchestrator :=
      { o with clock, window := ⟨0, deadline, 0⟩, hookCalls }
    have hthird : waitAt vetoing o 2 = some (awake 1300 1600 2) := by decide +kernel
    have hfourth : waitAt vetoing o 3 = some (awake 1600 1900 3) := by decide +kernel
    have htwo : 2 < k := (hgranted 2).1 ⟨_, hthird, by decide, rfl, by decide⟩
    have hlast : ¬ 3 < k := by
      rw [← hgranted]
      rintro ⟨w, hw, -, -, hgrants⟩
      cases hw.symm.trans hfourth
      exact absurd hgrants (by decide)
    omega
  subst hthree
  have h := hslept ⟨by decide, by decide, by decide⟩
  have hforced := h.forced_iff.2 ⟨rfl, by decide⟩
  refine ⟨u, report, o', hcalm, hrun, by decide, h, hforced, ?_, h.start⟩
  rw [h.vetoes, if_pos hforced]
  rfl

/-! ## Runs that are disturbed, and runs without end in sight -/

/-- A node with short windows. -/
def brief : Orchestrator :=
  make { awake := 1000, sleep := 5000, vetoSlice := 100 } 0

/-- A hook that asks for more time whenever it is called, and vetoes the first sleep. -/
def lingering : Surroundings where
  hook := some fun o => (o.hookCalls == 0, (o.askForTime 200).2)

/-- A hook that vetoes so many sleeps. -/
def vetoingTimes (n : Nat) : Surroundings where
  hook := some fun o => (decide (o.hookCalls < n), o)

/-- A node with short windows whose vetoes ask for nothing. -/
def drowsy : Orchestrator :=
  make { awake := 1000, sleep := 5000, vetoSlice := 0 } 0

/-- Its window has run out, and the hook has been called so often. -/
def drowsyAt (n : Nat) : Orchestrator :=
  { drowsy with clock := 1000, hookCalls := n }

/-- Every veto leads to another wait, and nothing but the count of the calls has changed by then. -/
theorem waitAt_drowsy {times : Nat} (h : n < times) :
    waitAt (vetoingTimes times) drowsy (n + 1) = some (drowsyAt (n + 1)) := by
  have hgrants (m : Nat) : (drowsyAt m).Grants := by
    rw [grants_iff]
    show 1000 - 0 + (1000 - 1000) + 0 < 2000
    omega
  induction n with
  | zero =>
    exact waitAt_succ_eq_some_iff.2
      ⟨drowsy, rfl, round_eq_inr_iff.2 ⟨not_stops rfl rfl, ⟨decide_eq_true h, hgrants 1⟩, rfl⟩⟩
  | succ n ih =>
    exact waitAt_succ_eq_some_iff.2 ⟨_, ih (by omega),
      round_eq_inr_iff.2 ⟨not_stops rfl rfl, ⟨decide_eq_true h, hgrants (n + 2)⟩, rfl⟩⟩

/-- The hook is heard each time, and its vetoes are counted in 32 bits. -/
theorem takeControl_drowsy {times : Nat} (h : 0 < times) :
    ∃ report o', drowsy.takeControl (vetoingTimes times) (times + 1) 0 = some (report, o') ∧
      (∀ i, Granted (vetoingTimes times) drowsy i ↔ i < times) ∧ report.forced = false ∧
      report.vetoes = .ofNat times := by
  obtain ⟨n, rfl⟩ : ∃ n, times = n + 1 := ⟨times - 1, by omega⟩
  have hu := waitAt_drowsy (Nat.lt_succ_self n)
  have hround := round_of_allows (.ofNat (n + 1)) (not_stops rfl rfl)
    (show (drowsyAt (n + 1)).vetoed (vetoingTimes (n + 1)) = false from
      decide_eq_false (Nat.lt_irrefl _))
  exact ⟨_, _, takeControl_of_last hu hround, fun i => granted_iff_lt hu hround, rfl, rfl⟩

/-- A node that has been stopped does not sleep. One whose hook asks for time sleeps later than its
vetoes alone make it. And vetoes beyond 32 bits are not reported. -/
theorem takeControl_misreported :
    (∃ report o', brief.stop.takeControl {} 1 0 = some (report, o') ∧ o'.sleeps = []) ∧
    ((∀ f, lingering.hook = some f → ∀ u : Orchestrator,
        (f u).2.stopped = u.stopped ∧ (f u).2.clock = u.clock) ∧
      ∃ report o', brief.takeControl lingering 2 0 = some (report, o') ∧ report.forced = false ∧
        report.vetoes = 1 ∧ brief.bedtime 1 = 1100 ∧ report.awake = 1300) ∧
    ∃ fuel report o', drowsy.takeControl (vetoingTimes 4294967296) fuel 0 = some (report, o') ∧
      (∀ i, Granted (vetoingTimes 4294967296) drowsy i ↔ i < 4294967296) ∧
      report.forced = false ∧ report.vetoes = 0 := by
  refine ⟨⟨_, _, rfl, rfl⟩, ⟨?_, _, _, rfl, rfl, rfl, by decide, rfl⟩, ?_⟩
  · rintro f ⟨⟩ u
    obtain h | ⟨_, h, -⟩ := askForTime_cases 200 u
    all_goals exact ⟨congrArg (·.2.stopped) h, congrArg (·.2.clock) h⟩
  · obtain ⟨report, o', hrun, hgranted, hforced, hvetoes⟩ :=
      takeControl_drowsy (show 0 < 4294967296 by decide)
    exact ⟨_, report, o', hrun, hgranted, hforced, hvetoes⟩

end Multilink.Orchestrator
