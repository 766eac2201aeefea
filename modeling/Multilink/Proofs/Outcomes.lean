import Multilink.Proofs.Histories
import Multilink.Proofs.Shares
import Multilink.Score.Stats
/-!
# Outcomes are settled once

The statistics of a link count its outcomes until the next scoring, which turns the counts into one
rate of the history and begins anew. `LinkStats.between` are the outcomes between two scorings of a
log. `LinkStats.Accounts` says that the counts are those of the outcomes since the last scoring, and
that the rates recorded are those of the outcomes between the earlier ones, so that each outcome is
counted in one place. The clamp that a rate goes through on its way into the history leaves it as it is
(`LinkStats.recordedRate_eq`).
-/

namespace Multilink

/-- What is noted about a link: how a send or a receive ended. -/
inductive LinkOutcome where
  | sent (ok : Bool)
  | received (ok : Bool)
  deriving DecidableEq

/-- Was it a failure? -/
def LinkOutcome.failed : LinkOutcome → Bool
  | sent ok | received ok => !ok

/-- What happens to the statistics of a link. -/
inductive LinkEvent where
  | outcome (x : LinkOutcome)
  | scored
  deriving DecidableEq

/-- The outcome that is noted, if one is. -/
def LinkEvent.outcome? : LinkEvent → Option LinkOutcome
  | .outcome x => some x
  | .scored => none

namespace LinkStats

open ScoreNumber

/-! ## Intervals -/

/-- The outcomes after so many scorings and before the next one. -/
def between : Nat → List LinkEvent → List LinkOutcome
  | _, [] => []
  | 0, .scored :: _ => []
  | 0, .outcome x :: rest => x :: between 0 rest
  | n + 1, .scored :: rest => between n rest
  | n + 1, .outcome _ :: rest => between (n + 1) rest

/-- The number of scorings. -/
def scorings (log : List LinkEvent) : Nat :=
  log.count .scored

variable {log : List LinkEvent} {n : Nat}

theorem scorings_outcome (x : LinkOutcome) (log : List LinkEvent) :
    scorings (.outcome x :: log) = scorings log := by
  simp [scorings]

theorem scorings_scored (log : List LinkEvent) : scorings (.scored :: log) = scorings log + 1 := by
  simp [scorings]

theorem scorings_snoc_outcome (log : List LinkEvent) (x : LinkOutcome) :
    scorings (log ++ [.outcome x]) = scorings log := by
  simp [scorings]

theorem scorings_snoc_scored (log : List LinkEvent) :
    scorings (log ++ [.scored]) = scorings log + 1 := by
  simp [scorings]

theorem between_snoc_scored (n : Nat) (log : List LinkEvent) :
    between n (log ++ [.scored]) = between n log := by
  induction log generalizing n with
  | nil => cases n <;> rfl
  | cons e rest ih =>
    cases n <;> cases e <;> simp [between, ih]

/-- An outcome belongs to the interval that is open. -/
theorem between_snoc_outcome (n : Nat) (log : List LinkEvent) (x : LinkOutcome) :
    between n (log ++ [.outcome x]) =
      if n = scorings log then between n log ++ [x] else between n log := by
  induction log generalizing n with
  | nil => cases n <;> rfl
  | cons e rest ih =>
    rw [List.cons_append]
    cases e with
    | outcome y =>
      rw [scorings_outcome]
      cases n with
      | zero => rw [between, between, ih, apply_ite (List.cons y), List.cons_append]
      | succ n => rw [between, between, ih]
    | scored =>
      rw [scorings_scored]
      cases n with
      | zero => rw [between, between, if_neg (Nat.succ_ne_zero _).symm]
      | succ n => simp only [between, ih, Nat.add_right_cancel_iff]

/-- After the last scoring there is one interval. -/
theorem between_of_lt (h : scorings log < n) : between n log = [] := by
  induction log generalizing n with
  | nil => cases n <;> rfl
  | cons e rest ih =>
    cases n with
    | zero => omega
    | succ n =>
      cases e with
      | outcome x => exact ih (scorings_outcome x rest ▸ h)
      | scored =>
        rw [scorings_scored] at h
        exact ih (Nat.lt_of_succ_lt_succ h)

/-- Every outcome is in one interval. -/
theorem flatMap_between (log : List LinkEvent) :
    (List.range (scorings log + 1)).flatMap (between · log) = log.filterMap LinkEvent.outcome? := by
  induction log with
  | nil => rfl
  | cons e rest ih =>
    cases e with
    | outcome x =>
      show _ = x :: rest.filterMap LinkEvent.outcome?
      rw [scorings_outcome, ← ih, List.range_succ_eq_map, List.flatMap_cons, List.flatMap_cons,
        List.flatMap_map, List.flatMap_map]
      rfl
    | scored =>
      show _ = rest.filterMap LinkEvent.outcome?
      rw [scorings_scored, ← ih, List.range_succ_eq_map, List.flatMap_cons, List.flatMap_map]
      rfl

/-- The outcomes since the last scoring. -/
def pending (log : List LinkEvent) : List LinkOutcome :=
  between (scorings log) log

theorem pending_outcome (log : List LinkEvent) (x : LinkOutcome) :
    pending (log ++ [.outcome x]) = pending log ++ [x] := by
  rw [pending, scorings_snoc_outcome, between_snoc_outcome, if_pos rfl, pending]

theorem pending_scored (log : List LinkEvent) : pending (log ++ [.scored]) = [] := by
  rw [pending, scorings_snoc_scored, between_snoc_scored]
  exact between_of_lt (Nat.lt_succ_self _)

variable {R : Type} {s t : LinkStats R} {xs : List LinkOutcome}

/-! ## Counts -/

/-- The count of an outcome. -/
def tally (s : LinkStats R) : LinkOutcome → Tally
  | .sent true => s.sendOk
  | .sent false => s.sendFail
  | .received true => s.recvOk
  | .received false => s.recvFail

/-- Notes an outcome. -/
def note (s : LinkStats R) : LinkOutcome → LinkStats R
  | .sent ok => s.recordSend ok
  | .received ok => s.recordReceive ok

theorem tally_note (s : LinkStats R) (x y : LinkOutcome) :
    (s.note x).tally y = if x = y then (s.tally y).succ else s.tally y := by
  rcases x with (_ | _) | (_ | _) <;> rcases y with (_ | _) | (_ | _) <;> rfl

theorem history_note (s : LinkStats R) (x : LinkOutcome) : (s.note x).history = s.history := by
  rcases x with (_ | _) | (_ | _) <;> rfl

/-- The counts are those of these outcomes, as far as tallies go. -/
def Counts (s : LinkStats R) (xs : List LinkOutcome) : Prop :=
  ∀ x, (s.tally x).toNat = min (xs.count x) Tally.top.toNat

theorem Counts.note (h : s.Counts xs) (x : LinkOutcome) : (s.note x).Counts (xs ++ [x]) := by
  intro y
  have hy := h y
  have hsucc : (s.tally y).succ.toNat = min ((s.tally y).toNat + 1) Tally.top.toNat :=
    Tally.toNat_plus _ 1
  rw [tally_note, List.count_append, List.count_singleton]
  split
  · next hxy =>
    rw [if_pos (beq_iff_eq.2 hxy)]
    omega
  · next hxy =>
    rw [if_neg fun he => hxy (beq_iff_eq.1 he)]
    exact hy

theorem countP_failed (xs : List LinkOutcome) :
    xs.countP (·.failed) = xs.count (.sent false) + xs.count (.received false) := by
  induction xs with
  | nil => rfl
  | cons x xs ih =>
    rw [List.countP_cons, List.count_cons, List.count_cons, ih]
    rcases x with (_ | _) | (_ | _) <;> simp [LinkOutcome.failed] <;> omega

theorem length_eq_counts (xs : List LinkOutcome) :
    xs.length = xs.countP (·.failed) + (xs.count (.sent true) + xs.count (.received true)) := by
  rw [countP_failed]
  induction xs with
  | nil => rfl
  | cons x xs ih =>
    simp only [List.length_cons, List.count_cons, ih]
    rcases x with (_ | _) | (_ | _) <;> simp <;> omega

theorem Counts.failures (h : s.Counts xs) :
    s.failures.toNat = min (xs.countP (·.failed)) Tally.top.toNat := by
  have hsent : s.sendFail.toNat = _ := h (.sent false)
  have hreceived : s.recvFail.toNat = _ := h (.received false)
  have htop : Tally.top.toNat = 0xFFFFFFFF := rfl
  rw [LinkStats.failures, Tally.toNat_plus, countP_failed]
  omega

theorem Counts.total (h : s.Counts xs) :
    (Tally.plus s.failures s.successes).toNat = min xs.length Tally.top.toNat := by
  have hsent : s.sendOk.toNat = _ := h (.sent true)
  have hreceived : s.recvOk.toNat = _ := h (.received true)
  have hfailures := h.failures
  have htop : Tally.top.toNat = 0xFFFFFFFF := rfl
  rw [Tally.toNat_plus, successes, Tally.toNat_plus, length_eq_counts]
  omega

variable [ScoreNumber R]

/-- The share of failures among so many outcomes, zero if there are none. -/
def share (failed total : Nat) : R :=
  if total = 0 then ofNat 0 else ofNat failed / ofNat total

/-- A share of counts is from zero to one, so that a clamp to this range leaves it as it is. -/
theorem clamp_share {failed total : Nat} (h : failed ≤ total) (htotal : total < 2 ^ 32) :
    clamp (ofNat 0) (ofNat 1) (share failed total) = (share failed total : Float32) := by
  unfold share
  split
  · rfl
  · next hsome =>
    obtain ⟨hzero, hone⟩ := Share.quotient_bounds h (Nat.pos_of_ne_zero hsome) htotal
    exact (if_neg (mt of_decide_eq_true hzero)).trans (if_neg (mt of_decide_eq_true hone))

theorem currentFailureRate_eq (s : LinkStats R) :
    s.currentFailureRate = share s.failures.toNat (Tally.plus s.failures s.successes).toNat := by
  unfold LinkStats.currentFailureRate share
  by_cases hnone : Tally.plus s.failures s.successes = 0
  · rw [if_pos hnone, if_pos (by rw [hnone]; rfl)]
  · have hsome : (Tally.plus s.failures s.successes).toNat ≠ 0 := fun h =>
      hnone (UInt32.toNat_inj.1 h)
    rw [if_neg hnone, if_neg hsome]

/-- A scoring records the failure rate as it is. -/
theorem settle_eq (s : LinkStats Float32) :
    s.settle = { s with history := s.history.push s.currentFailureRate } := by
  have hle : s.failures.toNat ≤ (Tally.plus s.failures s.successes).toNat := by
    have htop := s.failures.toNat_lt
    rw [Tally.toNat_plus]
    omega
  have hclamp := clamp_share hle (UInt32.toNat_lt _)
  rw [settle, pushFailureRate, currentFailureRate_eq, hclamp]

/-- The share of failures among some outcomes, which are counted as far as tallies go. -/
def failureRate (xs : List LinkOutcome) : R :=
  share (min (xs.countP (·.failed)) Tally.top.toNat) (min xs.length Tally.top.toNat)

/-- The rate that a scoring records for the outcomes that it settles. -/
def recordedRate (xs : List LinkOutcome) : R :=
  clamp (ofNat 0) (ofNat 1) (failureRate xs)

/-- Recording a rate does not change it. -/
theorem recordedRate_eq (xs : List LinkOutcome) : (recordedRate xs : Float32) = failureRate xs := by
  have hle : min (xs.countP (·.failed)) Tally.top.toNat ≤ min xs.length Tally.top.toNat :=
    Nat.le_min.2 ⟨Nat.le_trans (Nat.min_le_left _ _) List.countP_le_length, Nat.min_le_right _ _⟩
  have htop : min xs.length Tally.top.toNat < 2 ^ 32 :=
    Nat.lt_of_le_of_lt (Nat.min_le_right _ _) (by decide)
  exact clamp_share hle htop

/-- The rates of the intervals that scorings have ended, the first one first. -/
def rates (log : List LinkEvent) : List R :=
  (List.range (scorings log)).map fun n => recordedRate (between n log)

theorem rates_eq (log : List LinkEvent) : (rates log : List Float32) =
    (List.range (scorings log)).map fun n => failureRate (between n log) :=
  List.map_congr_left fun _ _ => recordedRate_eq _

theorem length_rates (log : List LinkEvent) : (rates (R := R) log).length = scorings log := by
  rw [rates, List.length_map, List.length_range]

theorem rates_outcome (log : List LinkEvent) (x : LinkOutcome) :
    rates (R := R) (log ++ [.outcome x]) = rates log := by
  rw [rates, rates, scorings_snoc_outcome]
  refine List.map_congr_left fun n hn => ?_
  rw [between_snoc_outcome, if_neg (Nat.ne_of_lt (List.mem_range.1 hn))]

theorem rates_scored (log : List LinkEvent) :
    rates (R := R) (log ++ [.scored]) = rates log ++ [recordedRate (pending log)] := by
  rw [rates, rates, scorings_snoc_scored, List.range_succ, List.map_append]
  simp only [between_snoc_scored]
  rfl

theorem Counts.currentFailureRate (h : s.Counts xs) : s.currentFailureRate = failureRate xs := by
  rw [currentFailureRate_eq, h.failures, h.total, failureRate]

/-! ## Accounts -/

/-- The counts are those of the outcomes since the last scoring, and the rates that were recorded are
those of the intervals before. -/
structure Accounts (s : LinkStats R) (log : List LinkEvent) : Prop where
  counts : s.Counts (pending log)
  history : s.history.Recorded (rates log)

theorem accounts_fresh (speed : UInt32) : ({ nominalSpeed := speed } : LinkStats R).Accounts [] where
  counts x := by rcases x with (_ | _) | (_ | _) <;> rfl
  history := History.recorded_empty

theorem Accounts.note (h : s.Accounts log) (x : LinkOutcome) :
    (s.note x).Accounts (log ++ [.outcome x]) where
  counts := pending_outcome log x ▸ h.counts.note x
  history := by
    rw [rates_outcome, history_note]
    exact h.history

theorem Accounts.score (h : s.Accounts log) (p : Profile R) (length : Nat) (now : Micros) :
    (s.score p length now).2.Accounts (log ++ [.scored]) where
  counts x := by
    rw [pending_scored]
    rcases x with (_ | _) | (_ | _) <;> rfl
  history := by
    rw [rates_scored, recordedRate, ← h.counts.currentFailureRate]
    exact h.history.push _

/-- What a driver measures is not an outcome. -/
theorem Accounts.measured (h : s.Accounts log) (speed : UInt32) :
    ({ s with measuredSpeed := speed } : LinkStats R).Accounts log :=
  ⟨h.counts, h.history⟩

end LinkStats

end Multilink
