import Mathlib
import Multilink.Proofs.Envelopes
import Multilink.Proofs.Outcomes
/-!
# What failures do to scores in exact numbers

On exact rationals every score of a run of scorings is from -100 to 10. More failures and fewer
successes at one of them never raise its score or one after it, for as long as the rate they left is in
the history and for as long as their score is averaged into later ones:
`LinkStats.scores_in_bounds_and_order`.

`LinkStats.InRange` is what a scoring keeps for the bounds. `LinkStats.Above` relates the statistics of
two runs, slot by slot and score by score; a scoring keeps it too, if it is not kinder to the second
run than to the first.
-/

namespace Multilink

open ScoreNumber

/-! ## Scorings -/

namespace LinkStats

/-- A scoring: what was counted before it, what is scored, and when. -/
structure Scoring where
  sendOk : Tally := 0
  sendFail : Tally := 0
  recvOk : Tally := 0
  recvFail : Tally := 0
  length : Nat
  now : Micros := 0

namespace Scoring

variable {R : Type} [ScoreNumber R] (c d : Scoring)

def failures : Tally :=
  Tally.plus c.sendFail c.recvFail

def successes : Tally :=
  Tally.plus c.sendOk c.recvOk

/-- The failure rate that it records. -/
def rate : R :=
  clamp (ofNat 0) (ofNat 1) (share c.failures.toNat (Tally.plus c.failures c.successes).toNat)

/-- The second scoring is for the same length, with at least as many failures and at most as many
successes. -/
structure Kinder : Prop where
  length : c.length = d.length
  failures : c.failures ≤ d.failures
  successes : d.successes ≤ c.successes

theorem Kinder.refl : c.Kinder c :=
  ⟨rfl, UInt32.le_refl _, UInt32.le_refl _⟩

end Scoring

variable {R : Type} [ScoreNumber R]

/-- The statistics with these counts. -/
def counting (s : LinkStats R) (c : Scoring) : LinkStats R :=
  { s with sendOk := c.sendOk, sendFail := c.sendFail, recvOk := c.recvOk, recvFail := c.recvFail }

/-- A scoring of a link with these counts. -/
def scored (p : Profile R) (s : LinkStats R) (c : Scoring) : R × LinkStats R :=
  (s.counting c).score p c.length c.now

/-- The scores of one scoring after the other. -/
def scores (p : Profile R) : LinkStats R → List Scoring → List R
  | _, [] => []
  | s, c :: cs => (s.scored p c).1 :: scores p (s.scored p c).2 cs

end LinkStats

/-! ## Failure rates -/

namespace History

variable {h k : History ℚ} {r q : ℚ}

theorem foldl_add_eq_sum (first : ℚ) (rest : List ℚ) :
    rest.foldl (· + ·) first = first + rest.sum := by
  induction rest generalizing first with
  | nil => simp
  | cons r rest ih => rw [List.foldl_cons, ih, List.sum_cons, add_assoc]

theorem average_eq_div (h : History ℚ) : h.average = h.slots.sum / h.slots.length := by
  rw [average_eq]
  rcases h.slots with _ | ⟨first, rest⟩
  · rw [mean, List.sum_nil, zero_div]
    rfl
  · rw [mean, List.sum_cons, ← foldl_add_eq_sum]
    rfl

theorem average_mem (hrates : ∀ r ∈ h.slots, r ∈ Set.Icc (0 : ℚ) 1) :
    h.average ∈ Set.Icc (0 : ℚ) 1 := by
  have hlow : 0 ≤ h.slots.sum := List.sum_nonneg fun r hr => (hrates r hr).1
  have hhigh : h.slots.sum ≤ h.slots.length := by
    have hsum := List.sum_le_card_nsmul h.slots 1 fun r hr => (hrates r hr).2
    rwa [nsmul_one] at hsum
  rw [average_eq_div]
  exact ⟨by positivity, div_le_one_of_le₀ hhigh (Nat.cast_nonneg _)⟩

theorem average_mono (hrates : List.Forall₂ (· ≤ ·) h.slots k.slots) : h.average ≤ k.average := by
  rw [average_eq_div, average_eq_div, hrates.length_eq]
  exact div_le_div_of_nonneg_right hrates.sum_le_sum (Nat.cast_nonneg _)

theorem mem_push {x : ℚ} (hx : x ∈ (h.push r).slots) : x ∈ h.slots ∨ x = r := by
  have hx : x ∈ if h.next < h.slots.length then h.slots.set h.next r else h.slots ++ [r] := hx
  split at hx
  · exact List.mem_or_eq_of_mem_set hx
  · exact (List.mem_append.1 hx).imp_right List.mem_singleton.1

theorem forall₂_set {α : Type} {R : α → α → Prop} {l m : List α} {a b : α}
    (h : List.Forall₂ R l m) (hab : R a b) (i : ℕ) : List.Forall₂ R (l.set i a) (m.set i b) := by
  induction h generalizing i with
  | nil => exact .nil
  | cons hhead htail ih =>
    cases i with
    | zero => exact .cons hab htail
    | succ i => exact .cons hhead (ih i)

theorem forall₂_push (hnext : h.next = k.next) (hrates : List.Forall₂ (· ≤ ·) h.slots k.slots)
    (hr : r ≤ q) : List.Forall₂ (· ≤ ·) (h.push r).slots (k.push q).slots := by
  show List.Forall₂ _ (if _ then _ else _) (if _ then _ else _)
  rw [hnext, hrates.length_eq]
  split
  · exact forall₂_set hrates hr _
  · exact List.rel_append hrates (.cons hr .nil)

end History

namespace LinkStats

variable {c d : Scoring} {cs ds : List Scoring}

theorem share_eq_div (failed total : ℕ) : (share failed total : ℚ) = failed / total := by
  unfold share
  split
  · next hnone =>
    rw [hnone, Nat.cast_zero, div_zero]
    rfl
  · rfl

/-- More failures and fewer successes are not a smaller share, even if the total is cut off. -/
theorem share_mono {f s f' s' top : ℕ} (hf : f ≤ f') (hs : s' ≤ s) :
    (share f (min (f + s) top) : ℚ) ≤ share f' (min (f' + s') top) := by
  have hcross : f * min (f' + s') top ≤ f' * min (f + s) top :=
    calc f * min (f' + s') top
      _ = min (f * (f' + s')) (f * top) := (Nat.mul_min_mul_left ..).symm
      _ ≤ min (f' * (f + s)) (f' * top) := by
        refine min_le_min ?_ (Nat.mul_le_mul_right top hf)
        rw [Nat.mul_add, Nat.mul_add, Nat.mul_comm f f']
        exact Nat.add_le_add_left (Nat.mul_le_mul hf hs) _
      _ = f' * min (f + s) top := Nat.mul_min_mul_left ..
  rw [share_eq_div, share_eq_div]
  rcases Nat.eq_zero_or_pos (min (f + s) top) with hnone | hsome
  · rw [hnone, Nat.cast_zero, div_zero]
    positivity
  · rcases Nat.eq_zero_or_pos (min (f' + s') top) with hnone' | hsome'
    · have hzero : f = 0 := by omega
      rw [hzero, Nat.cast_zero, zero_div]
      positivity
    · rw [div_le_div_iff₀ (Nat.cast_pos.2 hsome) (Nat.cast_pos.2 hsome')]
      exact_mod_cast hcross

namespace Scoring

theorem rate_mem (c : Scoring) : (c.rate : ℚ) ∈ Set.Icc (0 : ℚ) 1 := by
  rw [rate, clamp_eq _ _ _ (by decide)]
  exact ⟨le_max_left _ _, max_le (by decide) (min_le_left _ _)⟩

theorem Kinder.rate_le (h : c.Kinder d) : (c.rate : ℚ) ≤ d.rate := by
  rw [rate, rate, clamp_eq _ _ _ (by decide), clamp_eq _ _ _ (by decide), Tally.toNat_plus,
    Tally.toNat_plus]
  exact max_le_max_left _ (min_le_min_left _
    (share_mono (UInt32.le_iff_toNat_le.1 h.failures) (UInt32.le_iff_toNat_le.1 h.successes)))

end Scoring

/-! ## One scoring -/

variable {s t : LinkStats ℚ} {p : Profile ℚ} {n : ℕ}

theorem rawScore_eq (s : LinkStats ℚ) (p : Profile ℚ) (n : ℕ) : s.rawScore p n =
    max (-100) (min 100 (p.lengthSuitability n + max (-100) (10 - 100 * s.history.average))) := by
  rw [rawScore, clamp_eq _ _ _ (by decide), reliabilityTerm, atLeast_eq_max]
  rfl

theorem rawScore_mem (h : 0 ≤ s.history.average) : s.rawScore p n ∈ Set.Icc (-100 : ℚ) 10 := by
  have hlength := (p.lengthSuitability_bounds n).2
  have hterm : max (-100) (10 - 100 * s.history.average) ≤ 10 := max_le (by norm_num) (by linarith)
  rw [rawScore_eq]
  exact ⟨le_max_left _ _, max_le (by norm_num) ((min_le_right _ _).trans (by linarith))⟩

theorem rawScore_anti (h : s.history.average ≤ t.history.average) :
    t.rawScore p n ≤ s.rawScore p n := by
  rw [rawScore_eq, rawScore_eq]
  gcongr

theorem smooth_mem {last : Option ℚ} {x : ℚ} (hlast : ∀ y ∈ last, y ∈ Set.Icc (-100 : ℚ) 10)
    (hx : x ∈ Set.Icc (-100 : ℚ) 10) : smooth last x ∈ Set.Icc (-100 : ℚ) 10 := by
  cases last with
  | none => exact hx
  | some y =>
    obtain ⟨hylow, hyhigh⟩ := hlast y rfl
    show (x + y) / 2 ∈ _
    exact ⟨by linarith [hx.1], by linarith [hx.2]⟩

theorem smooth_mono {last last' : Option ℚ} {x y : ℚ} (hlast : Option.Rel (· ≤ ·) last last')
    (hxy : x ≤ y) : smooth last x ≤ smooth last' y := by
  cases hlast with
  | none => exact hxy
  | some h =>
    show (x + _) / 2 ≤ (y + _) / 2
    gcongr

theorem history_settle (s : LinkStats ℚ) (c : Scoring) :
    (s.counting c).settle.history = s.history.push c.rate := by
  rw [settle, pushFailureRate, currentFailureRate_eq]
  rfl

theorem scored_eq (p : Profile ℚ) (s : LinkStats ℚ) (c : Scoring) : (s.scored p c).1 =
    smooth s.lastScore ((s.counting c).settle.rawScore p c.length) :=
  rfl

/-- The rates of the history and the last score are in the range that they should be in. -/
structure InRange (s : LinkStats ℚ) : Prop where
  rates : ∀ r ∈ s.history.slots, r ∈ Set.Icc (0 : ℚ) 1
  last : ∀ x ∈ s.lastScore, x ∈ Set.Icc (-100 : ℚ) 10

theorem InRange.scored (h : s.InRange) (p : Profile ℚ) (c : Scoring) :
    (s.scored p c).1 ∈ Set.Icc (-100 : ℚ) 10 ∧ (s.scored p c).2.InRange := by
  have hrates : ∀ r ∈ (s.counting c).settle.history.slots, r ∈ Set.Icc (0 : ℚ) 1 := by
    intro r hr
    rw [history_settle] at hr
    rcases History.mem_push hr with hold | rfl
    · exact h.rates r hold
    · exact c.rate_mem
  have hscore : (s.scored p c).1 ∈ Set.Icc (-100 : ℚ) 10 :=
    smooth_mem h.last (rawScore_mem (History.average_mem hrates).1)
  refine ⟨hscore, hrates, fun x hx => ?_⟩
  cases hx
  exact hscore

/-- The statistics are as if the second link had failed at least as often at each scoring. -/
structure Above (s t : LinkStats ℚ) : Prop where
  next : s.history.next = t.history.next
  rates : List.Forall₂ (· ≤ ·) s.history.slots t.history.slots
  last : Option.Rel (· ≤ ·) t.lastScore s.lastScore

theorem Above.scored (h : s.Above t) (p : Profile ℚ) (hcd : c.Kinder d) :
    (t.scored p d).1 ≤ (s.scored p c).1 ∧ (s.scored p c).2.Above (t.scored p d).2 := by
  have hrates : List.Forall₂ (· ≤ ·) (s.counting c).settle.history.slots
      (t.counting d).settle.history.slots := by
    rw [history_settle, history_settle]
    exact History.forall₂_push h.next h.rates hcd.rate_le
  have hscore : (t.scored p d).1 ≤ (s.scored p c).1 := by
    rw [scored_eq, scored_eq, hcd.length]
    exact smooth_mono h.last (rawScore_anti (History.average_mono hrates))
  refine ⟨hscore, ?_, hrates, .some hscore⟩
  exact congrArg (fun i => (i + 1) % History.capacity) h.next

/-! ## Runs of scorings -/

theorem length_scores (p : Profile ℚ) (s : LinkStats ℚ) (cs : List Scoring) :
    (scores p s cs).length = cs.length := by
  induction cs generalizing s with
  | nil => rfl
  | cons c cs ih => rw [scores, List.length_cons, List.length_cons, ih]

theorem InRange.scores (h : s.InRange) (p : Profile ℚ) (cs : List Scoring) {x : ℚ}
    (hx : x ∈ scores p s cs) : x ∈ Set.Icc (-100 : ℚ) 10 := by
  induction cs generalizing s with
  | nil => cases hx
  | cons c cs ih =>
    obtain ⟨hscore, hnext⟩ := h.scored p c
    rcases List.mem_cons.1 hx with rfl | hx
    · exact hscore
    · exact ih hnext hx

theorem Above.scores (h : s.Above t) (p : Profile ℚ) (hcds : List.Forall₂ Scoring.Kinder cs ds) :
    List.Forall₂ (· ≤ ·) (scores p t ds) (scores p s cs) := by
  induction hcds generalizing s t with
  | nil => exact .nil
  | cons hcd _ ih =>
    obtain ⟨hscore, hnext⟩ := h.scored p hcd
    exact .cons hscore (ih hnext)

/-- Every scoring of a new link gives a score, and all of them are from -100 to 10. If at one scoring
there are as many failures or more, and as many successes or fewer, neither its score nor one after it
is higher for that. -/
theorem scores_in_bounds_and_order (p : Profile ℚ) (speed : UInt32) :
    (∀ cs, (scores p { nominalSpeed := speed } cs).length = cs.length ∧
      ∀ x ∈ scores p { nominalSpeed := speed } cs, -100 ≤ x ∧ x ≤ 10) ∧
    ∀ before c d after, c.length = d.length → c.failures ≤ d.failures →
      d.successes ≤ c.successes →
      List.Forall₂ (· ≤ ·) (scores p { nominalSpeed := speed } (before ++ d :: after))
        (scores p { nominalSpeed := speed } (before ++ c :: after)) := by
  have hrange : ({ nominalSpeed := speed } : LinkStats ℚ).InRange := ⟨nofun, nofun⟩
  have habove : ({ nominalSpeed := speed } : LinkStats ℚ).Above { nominalSpeed := speed } :=
    ⟨rfl, .nil, .none⟩
  refine ⟨fun cs => ⟨length_scores p _ cs, fun x => hrange.scores p cs⟩, ?_⟩
  intro before c d after hlength hfailures hsuccesses
  have hsame (cs : List Scoring) : List.Forall₂ Scoring.Kinder cs cs :=
    List.forall₂_same.2 fun c _ => .refl c
  exact habove.scores p
    (List.rel_append (hsame before) (.cons ⟨hlength, hfailures, hsuccesses⟩ (hsame after)))

/-- A failure in place of a success lowers the score by fifty, and the one after it by less. -/
theorem scores_after_failure :
    let p : Profile ℚ := ⟨1, 1000, 1, 0⟩
    let c : Scoring := { sendOk := 2, length := 100 }
    let d : Scoring := { sendOk := 1, sendFail := 1, length := 100 }
    let e : Scoring := { length := 100 }
    c.length = d.length ∧ c.failures ≤ d.failures ∧ d.successes ≤ c.successes ∧
      scores p { nominalSpeed := 0 } [c, e] = [10, 10] ∧
      scores p { nominalSpeed := 0 } [d, e] = [-40, -55 / 2] ∧
      List.Forall₂ (· ≤ ·) (scores p { nominalSpeed := 0 } [d, e])
        (scores p { nominalSpeed := 0 } [c, e]) := by
  intro p c d e
  have hfailures : c.failures ≤ d.failures := by decide
  have hsuccesses : d.successes ≤ c.successes := by decide
  exact ⟨rfl, hfailures, hsuccesses, by decide +kernel, by decide +kernel,
    (scores_in_bounds_and_order p 0).2 [] c d [e] rfl hfailures hsuccesses⟩

end LinkStats

end Multilink
