import Multilink.Proofs.Announcements
import Multilink.Proofs.AwakeWindows
/-!
# Announced windows are kept

A node that is asked for its next window forecasts it from the current one. If it is left alone until
then, the window begins when it was forecast and lasts as long (`Orchestrator.takeControl_forecast`).
A node with the same clock that has noted the answer wakes its margin later
(`Orchestrator.Hears.clock`), so that `Orchestrator.forecast_kept` joins the two nodes by the
frame between them.

A node that has been stopped still answers, but opens no window any more
(`Orchestrator.stopped_forecast`).
-/

namespace Multilink

/-! ## The answer of a node with the same clock -/

namespace Orchestrator

/-- The answer as a node with the same clock understands it at once. -/
def forecast (o : Orchestrator) : Availability :=
  ⟨o.clock.plus o.nextWindow.1, o.nextWindow.2, o.clock⟩

end Orchestrator

namespace Dispatcher

variable {W : Type} (w : Wiring W)

/-- A known sender's announcement is noted with the time at which it comes in. -/
theorem receive_answer {o : Orchestrator} {f : Inbound} {v : UInt16} {p : Peer} {d : Dispatcher W}
    (hclock : d.orchestrator.clock = o.clock) (hf : f.bytes = Frame.build .orchestration v o.answer)
    (free : d.peers.held = false) (hp : d.peers.ofSender? f.sender = some p) :
    ∃ t, (receive w f).run d = (.ok (), t) ∧ availability? p.handle t = some o.forecast := by
  have hsender := run_resolveSender_free w (d := d.countReceived) free hp f.media .orchestration
  obtain ⟨t, hrun, hnoted⟩ := receive_told w hf hsender
  rw [hclock] at hnoted
  exact ⟨t, hrun, hnoted.availability?⟩

end Dispatcher

/-! ## The window that begins next -/

/-- Nothing keeps the node from its next sleep, which it begins to wait for now: the hook allows it and
neither extends nor restarts the window, and no stop comes in the wait. -/
structure Surroundings.Quiet (around : Surroundings) (o : Orchestrator) : Prop where
  allows : ∀ f, around.hook = some f → ∀ u,
    (f u).1 = false ∧ Orchestrator.Idles u (f u).2 ∧ (f u).2.clock = u.clock
  runs : around.stopInWait o = false

namespace Orchestrator

/-- Neither the next sleep nor the window after it comes to the end of time. -/
def Fits (o : Orchestrator) : Prop :=
  max o.clock.toNat o.window.deadline.toNat + o.timings.sleep + o.timings.awake < 0x10000000000000000

instance (o : Orchestrator) : Decidable o.Fits :=
  inferInstanceAs (Decidable (_ < _))

variable {o later : Orchestrator} {around : Surroundings}

theorem answered_quiet (hquiet : around.Quiet o) :
    o.vetoed around = false ∧ Idles o (o.answered around) ∧ (o.answered around).clock = o.due := by
  unfold vetoed answered callHook
  cases hhook : around.hook with
  | none => exact ⟨rfl, ⟨rfl, rfl⟩, rfl⟩
  | some f =>
    obtain ⟨hveto, hidle, hclock⟩ := hquiet.allows f hhook o.awaited
    exact ⟨hveto, hidle, hclock⟩

/-- A window that nothing extends is run out to its end, or to now if that is past. -/
theorem takeControl_quiet (hquiet : around.Quiet o) (hstopped : o.stopped = false) (fuel : Nat) :
    ∃ t, o.takeControl around (fuel + 1) 0 = some (t.sleepAndBegin 0 false) ∧ Idles o t ∧
      t.clock.toNat = max o.clock.toNat o.window.deadline.toNat := by
  obtain ⟨hallows, hidle, hclock⟩ := answered_quiet hquiet
  refine ⟨o.answered around, ?_, hidle, by rw [hclock, toNat_due, Nat.max_comm]⟩
  rw [takeControl_succ, round_of_allows 0 (not_stops hstopped hquiet.runs) hallows]

theorem toNat_sleepFor {duration : Nat}
    (h : o.clock.toNat + duration < 0x10000000000000000) :
    (o.sleepFor duration).clock.toNat = o.clock.toNat + duration := by
  have hduration := Micros.toNat_ofNat duration
  show (o.clock + Micros.ofNat duration).toNat = _
  rw [UInt64.toNat_add, Nat.mod_eq_of_lt] <;> omega

/-- Run out at any time until it ends, the window is followed by the one that was forecast. -/
theorem takeControl_forecast (hfits : o.Fits) (hquiet : around.Quiet later) (hidle : Idles o later)
    (hstopped : later.stopped = false) (hfrom : o.clock ≤ later.clock)
    (hto : later.clock ≤ max o.clock o.window.deadline) (fuel : Nat) :
    ∃ report next, later.takeControl around (fuel + 1) 0 = some (report, next) ∧
      next.window.cycles = o.window.cycles + 1 ∧ next.clock = next.window.start ∧
      next.window.start.toNat = o.clock.toNat + o.nextWindow.1.toNat ∧
      next.window.deadline.toNat = next.window.start.toNat + o.nextWindow.2.toNat := by
  obtain ⟨htimings, hwindow⟩ := hidle
  obtain ⟨t, hrun, ⟨htimings', hwindow'⟩, hclock⟩ := takeControl_quiet hquiet hstopped fuel
  rw [UInt64.le_iff_toNat_le] at hfrom hto
  rw [Micros.toNat_max] at hto
  rw [Fits] at hfits
  -- both the forecast and the run count from the later of the time of the forecast and the deadline
  have hend : t.clock.toNat = max o.clock.toNat o.window.deadline.toNat := by
    rw [hclock, hwindow]
    omega
  have hwait : o.nextWindow.1.toNat =
      o.window.deadline.toNat - o.clock.toNat + o.timings.sleep := by
    rw [nextWindow, Micros.toNat_plus, Micros.toNat_minus, Micros.toNat_ofNat]
    omega
  have hawake : o.nextWindow.2.toNat = o.timings.awake := by
    rw [nextWindow, Micros.toNat_ofNat]
    omega
  have hnominal : t.timings = o.timings := htimings'.trans htimings
  have hsleep : (t.sleepFor t.timings.sleep).clock.toNat = t.clock.toNat + o.timings.sleep := by
    rw [hnominal]
    exact toNat_sleepFor (by omega)
  refine ⟨_, _, hrun, congrArg (·.cycles + 1) (hwindow'.trans hwindow), rfl, ?_, ?_⟩
  · show (t.sleepFor t.timings.sleep).clock.toNat = _
    omega
  · show (Micros.plus (t.sleepFor t.timings.sleep).clock (.ofNat t.timings.awake)).toNat =
      (t.sleepFor t.timings.sleep).clock.toNat + _
    rw [Micros.toNat_plus, Micros.toNat_ofNat, hsleep, hnominal]
    omega

/-! ## Waking in it -/

section

variable {σ : Type} (link : ControlLink σ)

/-- Asked at most so many times, the link comes to know `a` as an answer. -/
inductive Hears (a : Availability) : Nat → σ → σ → Prop
  | now {n : Nat} {s t : σ} : (link.orchestrator s).stopped = false → link.ask s = (true, t) →
      link.known t = some a → (link.orchestrator s).clock ≤ a.updated → Hears a (n + 1) s t
  | unsent {n : Nat} {s t u : σ} : (link.orchestrator s).stopped = false →
      link.ask s = (false, t) → Hears a n t u → Hears a (n + 1) s u
  | unanswered {n : Nat} {s t u : σ} : (link.orchestrator s).stopped = false →
      link.ask s = (true, t) →
      (link.known t).filter ((link.orchestrator s).clock ≤ ·.updated) = none →
      Hears a n t u → Hears a (n + 1) s u

variable {link}

theorem Hears.giveControl {a : Availability} {n : Nat} {s t : σ} (h : Hears link a n s t) :
    let o := link.orchestrator t
    let slept := (a.next.plus (.ofNat o.timings.wakeMargin)).minus o.clock
    giveControl link n s =
      (.aligned slept a.awake, link.put t ((o.sleepFor slept.toNat).beginCycle a.awake)) := by
  induction h with
  | now hrunning hask hknown hupdated =>
    unfold Orchestrator.giveControl
    simp [hrunning, hask, hknown, Option.filter, hupdated]
  | unsent hrunning hask _ ih =>
    unfold Orchestrator.giveControl
    simpa [hrunning, hask] using ih
  | unanswered hrunning hask hnothing _ ih =>
    unfold Orchestrator.giveControl
    simpa [hrunning, hask, hnothing] using ih

/-- A node that hears of a window before the target wakes its margin after the window begins. -/
theorem Hears.clock {a : Availability} {n : Nat} {s t : σ} (h : Hears link a n s t)
    (hl : link.Lawful)
    (hfits : a.next.toNat + (link.orchestrator t).timings.wakeMargin < 0x10000000000000000)
    (hbefore : (link.orchestrator t).clock.toNat ≤
      a.next.toNat + (link.orchestrator t).timings.wakeMargin) :
    ∃ slept s', Orchestrator.giveControl link n s = (.aligned slept a.awake, s') ∧
      (link.orchestrator s').window.start = (link.orchestrator s').clock ∧
      (link.orchestrator s').clock.toNat =
        a.next.toNat + (link.orchestrator t).timings.wakeMargin := by
  refine ⟨_, _, h.giveControl, ?_, ?_⟩
  · rw [hl.put]
    rfl
  · have htarget : (a.next.plus (.ofNat (link.orchestrator t).timings.wakeMargin)).toNat =
        a.next.toNat + (link.orchestrator t).timings.wakeMargin := by
      rw [Micros.toNat_plus, Micros.toNat_ofNat]
      omega
    have hslept := Micros.toNat_minus
      (a.next.plus (.ofNat (link.orchestrator t).timings.wakeMargin)) (link.orchestrator t).clock
    rw [hl.put]
    refine (toNat_sleepFor (by omega)).trans ?_
    omega

end

/-! ## From one node to the other -/

/-- A running node that is left alone begins its next window when it forecast it, and keeps it open
as long. Another node with the same clock notes the forecast when it receives the answer, and one that
hears of it before the target wakes its margin after the window has begun. -/
theorem forecast_kept (hfits : o.Fits) (hquiet : around.Quiet later) (hidle : Idles o later)
    (hstopped : later.stopped = false) (hfrom : o.clock ≤ later.clock)
    (hto : later.clock ≤ max o.clock o.window.deadline) (fuel : Nat) :
    ∃ report next, later.takeControl around (fuel + 1) 0 = some (report, next) ∧
      next.window.cycles = o.window.cycles + 1 ∧
      next.window.start.toNat = o.clock.toNat + o.nextWindow.1.toNat ∧
      next.window.deadline.toNat = next.window.start.toNat + o.nextWindow.2.toNat ∧
      (∀ {W : Type} (w : Wiring W) (f : Inbound) (v : UInt16) (p : Peer) (d : Dispatcher W),
        f.bytes = Frame.build .orchestration v o.answer → d.orchestrator.clock = o.clock →
        d.peers.held = false → d.peers.ofSender? f.sender = some p →
        ∃ t, (Dispatcher.receive w f).run d = (.ok (), t) ∧
          Dispatcher.availability? p.handle t = some o.forecast) ∧
      ∀ {σ : Type} (link : ControlLink σ) (retries : Nat) (s t : σ),
        link.Lawful → Hears link o.forecast retries s t →
        let target := next.window.start.toNat + (link.orchestrator t).timings.wakeMargin
        target < 0x10000000000000000 → (link.orchestrator t).clock.toNat ≤ target →
        ∃ slept s', giveControl link retries s = (.aligned slept o.nextWindow.2, s') ∧
          (link.orchestrator s').window.start = (link.orchestrator s').clock ∧
          (link.orchestrator s').clock.toNat = target := by
  obtain ⟨report, next, hrun, hcycles, -, hstart, hdeadline⟩ :=
    takeControl_forecast hfits hquiet hidle hstopped hfrom hto fuel
  refine ⟨report, next, hrun, hcycles, hstart, hdeadline, ?_, ?_⟩
  · intro W w f v p d hf hclock free hp
    exact Dispatcher.receive_answer w hclock hf free hp
  · intro σ link retries s t hl hears target htarget hbefore
    have hnext : o.forecast.next.toNat = next.window.start.toNat := by
      have hlt := next.window.start.toNat_lt
      rw [forecast, Micros.toNat_plus]
      omega
    have hwakes := hears.clock hl
    rw [hnext] at hwakes
    exact hwakes htarget hbefore

/-- A node that is asked right away, with one that it tells of its next window. -/
theorem forecast_kept_announced :
    let o := make { awake := 1000, sleep := 5000 } 0
    let asking : Scripted :=
      { orchestrator := make {} 0, attempts := [{ answer := some o.forecast, advance := 400 }] }
    o.nextWindow = (6000, 1000) ∧
    (∃ report next, o.takeControl {} 1 0 = some (report, next) ∧
      next.window.start.toNat = 6000 ∧ next.window.deadline.toNat = 7000) ∧
    ∃ slept s, giveControl Scripted.link 1 asking = (.aligned slept 1000, s) ∧
      s.orchestrator.clock.toNat = 56000 := by
  intro o asking
  have hquiet : Surroundings.Quiet {} o := ⟨nofun, rfl⟩
  have hidle : Idles o o := ⟨rfl, rfl⟩
  obtain ⟨report, next, hrun, -, hstart, hdeadline, -, hwakes⟩ :=
    forecast_kept (by decide) hquiet hidle rfl (by decide) (by decide) 0
  have hnext : o.nextWindow = (6000, 1000) := by decide
  have hlength : ((6000, 1000) : Micros × Micros).2.toNat = 1000 := by decide
  rw [hnext] at hstart hdeadline hwakes
  rw [show o.clock.toNat + ((6000, 1000) : Micros × Micros).1.toNat = 6000 by decide] at hstart
  refine ⟨hnext, ⟨report, next, hrun, hstart, by rw [hdeadline, hstart, hlength]⟩, ?_⟩
  have hears : Hears Scripted.link o.forecast 1 asking (Scripted.ask asking).2 :=
    .now rfl rfl rfl (by decide)
  have hmargin : (Scripted.link.orchestrator (Scripted.ask asking).2).timings.wakeMargin = 50000 :=
    rfl
  have hclock : (Scripted.link.orchestrator (Scripted.ask asking).2).clock.toNat = 400 := by decide
  have hwoken := hwakes Scripted.link 1 asking _ Scripted.lawful hears
  rw [hstart, hmargin, hclock] at hwoken
  obtain ⟨slept, s, hgive, -, hwake⟩ := hwoken (by decide) (by decide)
  exact ⟨slept, s, hgive, hwake⟩

/-- A node that has been stopped still forecasts a window, and never begins it. -/
theorem stopped_forecast :
    let o := (make { awake := 1000, sleep := 5000, vetoSlice := 100, wakeMargin := 0 } 0).stop
    o.Fits ∧ Surroundings.Quiet {} o ∧ o.nextWindow = (6000, 1000) ∧
      ∀ fuel report next, o.takeControl {} (fuel + 1) 0 = some (report, next) →
        next.window.start.toNat ≠ o.clock.toNat + o.nextWindow.1.toNat := by
  refine ⟨by decide, ⟨nofun, rfl⟩, rfl, ?_⟩
  intro fuel report next hrun
  cases hrun
  decide

end Orchestrator

end Multilink
