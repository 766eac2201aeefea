import Multilink.Proofs.AwakeWindows
/-!
# What aligning with another node comes to

A node asks for the window of another one in attempts. The first attempt that is answered aligns it,
and the attempts end there; they also end with a stop, and when there have been enough of them. What
is known counts as an answer only if it is not older than the attempt (`Orchestrator.Scripted.Answered`).

`Orchestrator.Ends` is what a row of attempts comes to, whatever happens in them. Either way the node
sleeps once and a window begins (`Orchestrator.giveControl_outcome`).
-/

namespace Multilink.Orchestrator

/-! ## Attempts -/

namespace Scripted

/-- The state after so many attempts. -/
def after (s : Scripted) : Nat → Scripted
  | 0 => s
  | n + 1 => s.ask.2.after n

/-- No stop comes before these attempts. -/
def Running (s : Scripted) (n : Nat) : Prop :=
  ∀ i < n, (s.after i).orchestrator.stopped = false

/-- Attempt `i`, counted from zero, is made before any stop, and answered: the question is sent, and
then `a` is known and not older than the attempt. -/
structure Answered (s : Scripted) (i : Nat) (a : Availability) : Prop where
  running : s.Running (i + 1)
  sent : (s.after i).ask.1 = true
  known : (s.after (i + 1)).known = some a
  fresh : (s.after i).orchestrator.clock ≤ a.updated

variable {s : Scripted} {i n : Nat} {a : Availability}

theorem ask_eq (s : Scripted) : ∃ clock known stopped, s.ask.2 =
    { orchestrator := { s.orchestrator with clock, stopped }
      known
      attempts := s.attempts.tail
      asked := s.asked + 1 } := by
  unfold ask
  dsimp only
  split
  · exact ⟨_, _, _, rfl⟩
  · exact ⟨_, _, _, rfl⟩

/-- Attempts only count, and act on the clock, the stop and what is known. -/
theorem after_eq (s : Scripted) (n : Nat) :
    (s.after n).asked = s.asked + n ∧ (s.after n).orchestrator.timings = s.orchestrator.timings ∧
      (s.after n).orchestrator.window = s.orchestrator.window ∧
      (s.after n).orchestrator.sleeps = s.orchestrator.sleeps := by
  induction n generalizing s with
  | zero => exact ⟨rfl, rfl, rfl, rfl⟩
  | succ n ih =>
    obtain ⟨hasked, htimings, hwindow, hsleeps⟩ := ih s.ask.2
    obtain ⟨clock, known, stopped, h⟩ := ask_eq s
    rw [h] at hasked htimings hwindow hsleeps
    rw [after, h]
    exact ⟨by rw [hasked, Nat.add_right_comm, Nat.add_assoc], htimings, hwindow, hsleeps⟩

theorem after_succ (s : Scripted) (n : Nat) : s.after (n + 1) = s.ask.2.after n :=
  rfl

theorem running_succ : s.Running (n + 1) ↔
    s.orchestrator.stopped = false ∧ s.ask.2.Running n :=
  Nat.forall_lt_succ_left

theorem answered_zero : s.Answered 0 a ↔ Scripted.link.Answers s a := by
  constructor
  · rintro ⟨hrun, hsent, hknown, hfresh⟩
    exact ⟨hrun 0 Nat.one_pos, hsent, hknown, hfresh⟩
  · rintro ⟨hrun, hsent, hknown, hfresh⟩
    exact ⟨running_succ.2 ⟨hrun, nofun⟩, hsent, hknown, hfresh⟩

/-- The attempts after the first one. -/
theorem answered_succ (hrunning : s.orchestrator.stopped = false) :
    s.Answered (i + 1) a ↔ s.ask.2.Answered i a :=
  ⟨fun ⟨hrun, hsent, hknown, hfresh⟩ => ⟨(running_succ.1 hrun).2, hsent, hknown, hfresh⟩,
    fun ⟨hrun, hsent, hknown, hfresh⟩ => ⟨running_succ.2 ⟨hrunning, hrun⟩, hsent, hknown, hfresh⟩⟩

theorem not_answered_of_stopped (hstopped : s.orchestrator.stopped = true) : ¬ s.Answered i a :=
  fun h => absurd (hstopped.symm.trans (h.running 0 (Nat.succ_pos i))) nofun

end Scripted

/-! ## Attempts in a row -/

variable {s : Scripted} {i n : Nat} {r : Alignment × Scripted}

/-- What so many attempts at most come to. -/
inductive Ends (s : Scripted) (n : Nat) : Alignment × Scripted → Prop
  | answered {i : Nat} {a : Availability} : i < n → s.Answered i a →
      (∀ j < i, ∀ b, ¬ s.Answered j b) → Ends s n (sleepAligned Scripted.link a (s.after (i + 1)))
  | unanswered {m : Nat} : m ≤ n → s.Running m →
      (m = n ∨ (s.after m).orchestrator.stopped = true) → (∀ j < n, ∀ b, ¬ s.Answered j b) →
      Ends s n (sleepUnanswered Scripted.link (s.after m))

/-- An attempt that is not answered is followed by the others. -/
theorem Ends.later (hrunning : s.orchestrator.stopped = false) (hfirst : ∀ b, ¬ s.Answered 0 b)
    (h : Ends s.ask.2 n r) : Ends s (n + 1) r := by
  have hshift {k : Nat} (hlater : ∀ j < k, ∀ b, ¬ s.ask.2.Answered j b) :
      ∀ j < k + 1, ∀ b, ¬ s.Answered j b :=
    Nat.forall_lt_succ_left.2
      ⟨hfirst, fun j hj b hb => hlater j hj b ((Scripted.answered_succ hrunning).1 hb)⟩
  cases h with
  | @answered i a hlt ha hnone =>
    rw [← Scripted.after_succ]
    exact .answered (Nat.succ_lt_succ hlt) ((Scripted.answered_succ hrunning).2 ha) (hshift hnone)
  | @unanswered m hle hrun hend hnone =>
    rw [← Scripted.after_succ]
    refine .unanswered (m := m + 1) (Nat.succ_le_succ hle)
      (Scripted.running_succ.2 ⟨hrunning, hrun⟩) ?_ (hshift hnone)
    rw [Scripted.after_succ]
    exact hend.imp_left (congrArg (· + 1))

theorem ends (n : Nat) (s : Scripted) : Ends s n (giveControl Scripted.link n s) := by
  induction n generalizing s with
  | zero => exact .unanswered (m := 0) (Nat.le_refl 0) nofun (.inl rfl) nofun
  | succ n ih =>
    cases hstopped : (Scripted.link.orchestrator s).stopped with
    | true =>
      rw [giveControl_of_stopped hstopped]
      exact .unanswered (m := 0) (Nat.zero_le _) nofun (.inr hstopped)
        fun _ _ _ => Scripted.not_answered_of_stopped hstopped
    | false =>
      obtain ⟨a, ha, h⟩ | ⟨hfirst, h⟩ := giveControl_succ hstopped n
      · rw [h]
        exact .answered (i := 0) (Nat.succ_pos n) (Scripted.answered_zero.2 ha) nofun
      · rw [h]
        exact (ih s.ask.2).later hstopped fun a ha => hfirst a (Scripted.answered_zero.1 ha)

/-! ## The sleep -/

/-- After so many attempts the node has slept once, this long, and the window that it wakes in is of
this length. -/
structure Rested (s : Scripted) (m duration : Nat) (awake : Micros) (t : Scripted) : Prop where
  asked : t.asked = s.asked + m
  running : s.Running m
  sleeps : t.orchestrator.sleeps = s.orchestrator.sleeps ++ [duration]
  cycles : t.orchestrator.window.cycles = s.orchestrator.window.cycles + 1
  woken : t.orchestrator.clock = (s.after m).orchestrator.clock + .ofNat duration
  start : t.orchestrator.window.start = t.orchestrator.clock
  deadline : t.orchestrator.window.deadline.toNat =
    min (t.orchestrator.clock.toNat + awake.toNat) Micros.top.toNat

theorem rested {m : Nat} (hrun : s.Running m) (duration : Nat) (awake : Micros) :
    Rested s m duration awake { s.after m with
      orchestrator := ((s.after m).orchestrator.sleepFor duration).beginCycle awake } := by
  obtain ⟨hasked, -, hwindow, hsleeps⟩ := s.after_eq m
  refine ⟨hasked, hrun, ?_, ?_, rfl, rfl, Micros.toNat_plus _ _⟩
  · show (s.after m).orchestrator.sleeps ++ [duration] = _
    rw [hsleeps]
  · show (s.after m).orchestrator.window.cycles + 1 = _
    rw [hwindow]

/-- The first answer decides how long the node sleeps and how long its window is. Without one the
node sleeps for its retry time and begins a nominal window. Nobody is asked after the answer, nor
after a stop, nor more often than the node is set to. -/
theorem giveControl_outcome (s : Scripted) :
    let timings := s.orchestrator.timings
    let retries := timings.whenRetries
    ∃ outcome t, giveControl Scripted.link retries s = (outcome, t) ∧
      ((∃ slept awake, outcome = .aligned slept awake) ↔ ∃ i < retries, ∃ a, s.Answered i a) ∧
      ((∃ i < retries, ∃ a slept, outcome = .aligned slept a.awake ∧ s.Answered i a ∧
          (∀ j < i, ∀ b, ¬ s.Answered j b) ∧
          slept.toNat = min (a.next.toNat + timings.wakeMargin) Micros.top.toNat -
            (s.after (i + 1)).orchestrator.clock.toNat ∧
          Rested s (i + 1) slept.toNat a.awake t) ∨
        ∃ m ≤ retries, outcome = .noAnswer timings.retrySleep ∧
          (m = retries ∨ (s.after m).orchestrator.stopped = true) ∧
          Rested s m timings.retrySleep (.ofNat timings.awake) t) := by
  intro timings retries
  have h := ends retries s
  obtain ⟨⟨outcome, t⟩, hgive⟩ : ∃ r, giveControl Scripted.link retries s = r := ⟨_, rfl⟩
  rw [hgive] at h
  refine ⟨outcome, t, hgive, ?_⟩
  cases h with
  | @answered i a hlt ha hfirst =>
    refine ⟨iff_of_true ⟨_, _, rfl⟩ ⟨i, hlt, a, ha⟩, .inl ⟨i, hlt, a, _, rfl, ha, hfirst, ?_, ?_⟩⟩
    · have htimings : (s.after (i + 1)).orchestrator.timings = timings := (s.after_eq (i + 1)).2.1
      show ((a.next.plus (.ofNat (s.after (i + 1)).orchestrator.timings.wakeMargin)).minus
        (s.after (i + 1)).orchestrator.clock).toNat = _
      rw [Micros.toNat_minus, Micros.toNat_plus, Micros.toNat_ofNat, Micros.toNat_top, htimings]
      omega
    · exact rested ha.running _ _
  | @unanswered m hle hrun hend hnone =>
    have htimings : (s.after m).orchestrator.timings = timings := (s.after_eq m).2.1
    refine ⟨iff_of_false nofun fun ⟨i, hlt, a, ha⟩ => hnone i hlt a ha, .inr ⟨m, hle, ?_, hend, ?_⟩⟩
    · show Alignment.noAnswer (s.after m).orchestrator.timings.retrySleep = _
      rw [htimings]
    · rw [← htimings]
      exact rested hrun _ _

/-- A window that begins at the end of time is slept for until then, without the margin, and the
window that the node wakes in has no length. -/
theorem clipped_window :
    let o := make { awake := 1000, sleep := 5000, wakeMargin := 50, vetoSlice := 100 } 100
    let a : Availability := { next := .top, awake := 1000, updated := 100 }
    let s : Scripted := { orchestrator := o, attempts := [{ answer := some a }] }
    ∃ slept t, giveControl Scripted.link o.timings.whenRetries s = (.aligned slept a.awake, t) ∧
      s.Answered 0 a ∧ (s.after 1).orchestrator.clock = 100 ∧
      slept.toNat < a.next.toNat + o.timings.wakeMargin - 100 ∧
      t.orchestrator.window.deadline.toNat <
        t.orchestrator.window.start.toNat + a.awake.toNat := by
  intro o a s
  refine ⟨_, _, rfl, ⟨?_, rfl, rfl, by decide⟩, rfl, by decide +kernel, by decide +kernel⟩
  intro i hi
  obtain rfl := Nat.lt_one_iff.1 hi
  rfl

end Multilink.Orchestrator
