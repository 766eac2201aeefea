import Mathlib
import Multilink.Score.Profile
/-!
# The cost of a length in exact numbers

On exact rationals the suitability of a length rises up to the envelope of a medium, is zero inside it
and falls beyond it, and it never leaves the range from -100 to 0: `Profile.lengthSuitability_shape`.

`Checked` are the rationals with a division that has no result if the divisor is zero. The definitions
of scores run on them as they are, so that a result among them tells that no such division was made.
-/

namespace Multilink

/-! ## Exact numbers -/

namespace ScoreNumber

variable (low high x : ℚ)

@[simp] theorem ofNat_eq_cast (n : ℕ) : (ofNat n : ℚ) = n :=
  rfl

@[simp] theorem atLeast_eq_max : atLeast low x = max low x := by
  rw [atLeast, max_def_lt]
  exact if_congr decide_eq_true_iff rfl rfl

@[simp] theorem atMost_eq_min : atMost high x = min high x := by
  rw [atMost, min_comm, min_def_lt]
  exact if_congr decide_eq_true_iff rfl rfl

theorem clamp_eq (h : low ≤ high) : clamp low high x = max low (min high x) := by
  unfold clamp
  split
  · next hlow => rw [max_eq_left (min_le_of_right_le (of_decide_eq_true hlow).le)]
  · next hlow =>
    have hlow : low ≤ x := not_lt.1 (mt decide_eq_true hlow)
    split
    · next hhigh => rw [min_eq_left (of_decide_eq_true hhigh).le, max_eq_right h]
    · next hhigh => rw [min_eq_right (not_lt.1 (mt decide_eq_true hhigh)), max_eq_right hlow]

end ScoreNumber

open ScoreNumber

/-- A rational, or no number at all if it came out of a division by zero. -/
structure Checked where
  value? : Option ℚ

namespace Checked

/-- An operation on rationals. It has no result if one of its operands is no number. -/
def lift (f : ℚ → ℚ → Option ℚ) (a b : Checked) : Checked :=
  ⟨a.value?.bind fun x => b.value?.bind fun y => f x y⟩

/-- A comparison of rationals. It is false if one of its operands is no number. -/
def compare (f : ℚ → ℚ → Bool) (a b : Checked) : Bool :=
  (a.value?.bind fun x => b.value?.map fun y => f x y).getD false

instance : ScoreNumber Checked where
  add := lift fun x y => some (x + y)
  sub := lift fun x y => some (x - y)
  mul := lift fun x y => some (x * y)
  div := lift fun x y => if y = 0 then none else some (x / y)
  neg a := ⟨a.value?.map (-·)⟩
  ofNat n := ⟨some n⟩
  lt := compare lt
  same := compare same

/-- The rational as a number of this kind. -/
def of (x : ℚ) : Checked :=
  ⟨some x⟩

variable {x y : ℚ}

theorem of_div (hy : y ≠ 0) : of x / of y = of (x / y) :=
  congrArg Checked.mk (if_neg hy)

theorem atLeast_of (x y : ℚ) : atLeast (of x) (of y) = of (atLeast x y) :=
  (apply_ite of _ _ _).symm

theorem atMost_of (x y : ℚ) : atMost (of x) (of y) = of (atMost x y) :=
  (apply_ite of _ _ _).symm

end Checked

/-! ## What a length costs -/

namespace Profile

variable (p : Profile ℚ) {m n : ℕ}

/-- The slope outside the envelope, in percent. -/
def slope : ℚ :=
  max 0 p.penaltyRate * 100

theorem slope_nonneg : 0 ≤ p.slope :=
  mul_nonneg (le_max_left _ _) (by norm_num)

theorem penalty_of_lt (h : n < p.idealMin) :
    p.penalty n = p.slope * (p.idealMin - n) / max 1 (p.idealMin : ℚ) := by
  have hlow : lt (n : ℚ) p.idealMin = true := decide_eq_true (Nat.cast_lt.2 h)
  simp only [penalty, ofNat_eq_cast, hlow, if_true, atLeast_eq_max]
  rfl

theorem penalty_of_gt (hlow : p.idealMin ≤ n) (h : p.idealMax < n) :
    p.penalty n = p.slope * (n - p.idealMax) / max 1 (p.idealMax : ℚ) := by
  have hlow : lt (n : ℚ) p.idealMin = false := decide_eq_false (not_lt.2 (Nat.cast_le.2 hlow))
  have hhigh : lt (p.idealMax : ℚ) n = true := decide_eq_true (Nat.cast_lt.2 h)
  simp only [penalty, ofNat_eq_cast, hlow, hhigh, if_true, atLeast_eq_max]
  rfl

theorem penalty_of_mem (hlow : p.idealMin ≤ n) (hhigh : n ≤ p.idealMax) : p.penalty n = 0 := by
  have hlow : lt (n : ℚ) p.idealMin = false := decide_eq_false (not_lt.2 (Nat.cast_le.2 hlow))
  have hhigh : lt (p.idealMax : ℚ) n = false := decide_eq_false (not_lt.2 (Nat.cast_le.2 hhigh))
  simp only [penalty, hlow, hhigh, ofNat_eq_cast]
  rfl

theorem penalty_nonneg (n : ℕ) : 0 ≤ p.penalty n := by
  have hslope := p.slope_nonneg
  rcases lt_or_ge n p.idealMin with hlow | hlow
  · have hdistance : (0 : ℚ) ≤ p.idealMin - n := sub_nonneg.2 (Nat.cast_le.2 hlow.le)
    rw [p.penalty_of_lt hlow]
    positivity
  · rcases le_or_gt n p.idealMax with hhigh | hhigh
    · exact (p.penalty_of_mem hlow hhigh).ge
    · have hdistance : (0 : ℚ) ≤ n - p.idealMax := sub_nonneg.2 (Nat.cast_le.2 hhigh.le)
      rw [p.penalty_of_gt hlow hhigh]
      positivity

/-- Up to the envelope, a longer payload costs no more. -/
theorem penalty_antitoneOn (ordered : p.idealMin ≤ p.idealMax) :
    AntitoneOn p.penalty (Set.Iic p.idealMin) := by
  intro m _ n hn hmn
  rcases (Set.mem_Iic.1 hn).lt_or_eq with hlt | rfl
  · have hslope := p.slope_nonneg
    rw [p.penalty_of_lt hlt, p.penalty_of_lt (hmn.trans_lt hlt)]
    gcongr
  · rw [p.penalty_of_mem le_rfl ordered]
    exact p.penalty_nonneg m

/-- From the end of the envelope on, a longer payload costs no less. -/
theorem penalty_monotoneOn (ordered : p.idealMin ≤ p.idealMax) :
    MonotoneOn p.penalty (Set.Ici p.idealMax) := by
  intro m hm n _ hmn
  rcases (Set.mem_Ici.1 hm).lt_or_eq with hlt | rfl
  · have hslope := p.slope_nonneg
    rw [p.penalty_of_gt (ordered.trans hlt.le) hlt,
      p.penalty_of_gt (ordered.trans (hlt.le.trans hmn)) (hlt.trans_le hmn)]
    gcongr
  · rw [p.penalty_of_mem ordered le_rfl]
    exact p.penalty_nonneg n

theorem lengthSuitability_eq (n : ℕ) : p.lengthSuitability n = -min 100 (p.penalty n) := by
  rw [lengthSuitability, atMost_eq_min]
  rfl

theorem lengthSuitability_bounds (n : ℕ) :
    -100 ≤ p.lengthSuitability n ∧ p.lengthSuitability n ≤ 0 := by
  rw [lengthSuitability_eq]
  exact ⟨neg_le_neg (min_le_left _ _),
    neg_nonpos.2 (le_min (by norm_num) (p.penalty_nonneg n))⟩

/-- The cost only depends on the slope, so that a negative rate acts as zero. -/
theorem penalty_of_nonpos {rate : ℚ} (h : rate ≤ 0) (n : ℕ) :
    ({ p with penaltyRate := rate } : Profile ℚ).penalty n =
      ({ p with penaltyRate := 0 } : Profile ℚ).penalty n := by
  have hrate : atLeast (ofNat 0) rate = atLeast (ofNat 0) (0 : ℚ) := by
    rw [atLeast_eq_max, atLeast_eq_max, ofNat_eq_cast, Nat.cast_zero, max_self, max_eq_left h]
  simp only [penalty, hrate]

/-! ## Divisions -/

/-- The same profile for numbers that divisions by zero show in. -/
def checked : Profile Checked :=
  { p with penaltyRate := .of p.penaltyRate }

/-- What is divided by is never zero, even if an end of the envelope is. -/
theorem checked_div (x : ℚ) (k : ℕ) :
    Checked.of x / atLeast (ofNat 1) (ofNat k) = .of (x / atLeast (ofNat 1) (ofNat k)) := by
  have hend : (0 : ℚ) < atLeast (ofNat 1) (ofNat k) := by
    rw [atLeast_eq_max]
    exact lt_max_of_lt_left (by norm_num)
  rw [← Checked.of_div hend.ne']
  exact congrArg _ (Checked.atLeast_of _ _)

theorem penalty_checked (n : ℕ) : p.checked.penalty n = .of (p.penalty n) := by
  have hrate : atLeast (ofNat 0) p.checked.penaltyRate = .of (atLeast (ofNat 0) p.penaltyRate) :=
    Checked.atLeast_of _ _
  unfold penalty
  simp only [hrate, apply_ite Checked.of, ← checked_div]
  rfl

theorem lengthSuitability_checked (n : ℕ) :
    p.checked.lengthSuitability n = .of (p.lengthSuitability n) := by
  rw [lengthSuitability, penalty_checked]
  exact congrArg (-·) (Checked.atMost_of _ _)

/-! ## The shape -/

/-- The suitability of a length has one peak. It is zero inside the envelope and from -100 to 0
everywhere, it does not fall up to the envelope and does not rise beyond it, a rate below zero acts as
zero, and nothing is divided by zero. -/
theorem lengthSuitability_shape (ordered : p.idealMin ≤ p.idealMax) :
    (∀ n, p.idealMin ≤ n → n ≤ p.idealMax → p.lengthSuitability n = 0) ∧
    (∀ n, -100 ≤ p.lengthSuitability n ∧ p.lengthSuitability n ≤ 0) ∧
    MonotoneOn p.lengthSuitability (Set.Iic p.idealMin) ∧
    AntitoneOn p.lengthSuitability (Set.Ici p.idealMax) ∧
    (∀ rate ≤ 0, ({ p with penaltyRate := rate } : Profile ℚ).lengthSuitability =
      ({ p with penaltyRate := 0 } : Profile ℚ).lengthSuitability) ∧
    ∀ n, (p.checked.penalty n).value? = some (p.penalty n) ∧
      (p.checked.lengthSuitability n).value? = some (p.lengthSuitability n) := by
  refine ⟨fun n hlow hhigh => ?_, p.lengthSuitability_bounds, fun m hm n hn hmn => ?_,
    fun m hm n hn hmn => ?_, fun rate hrate => funext fun n => ?_, fun n => ⟨?_, ?_⟩⟩
  · rw [lengthSuitability_eq, p.penalty_of_mem hlow hhigh, min_eq_right (by norm_num), neg_zero]
  · rw [lengthSuitability_eq, lengthSuitability_eq]
    exact neg_le_neg (min_le_min_left _ (p.penalty_antitoneOn ordered hm hn hmn))
  · rw [lengthSuitability_eq, lengthSuitability_eq]
    exact neg_le_neg (min_le_min_left _ (p.penalty_monotoneOn ordered hm hn hmn))
  · rw [lengthSuitability, lengthSuitability, penalty_of_nonpos p hrate]
  · rw [penalty_checked]
    rfl
  · rw [lengthSuitability_checked]
    rfl

/-- An envelope that ends at zero has no length below it, and a payload of one byte costs the whole
slope. -/
theorem lengthSuitability_narrow :
    let p : Profile ℚ := ⟨0, 0, 1 / 4, 0⟩
    p.idealMin ≤ p.idealMax ∧ p.lengthSuitability 0 = 0 ∧ p.lengthSuitability 1 = -25 ∧
      p.lengthSuitability 9 = -100 ∧ p.lengthSuitability 3 ≤ p.lengthSuitability 2 ∧
      (p.checked.lengthSuitability 3).value? = some (p.lengthSuitability 3) := by
  intro p
  have h := p.lengthSuitability_shape (Nat.le_refl 0)
  exact ⟨Nat.le_refl 0, h.1 0 (Nat.le_refl 0) (Nat.le_refl 0), by decide +kernel, by decide +kernel,
    h.2.2.2.1 (Nat.zero_le 2) (Nat.zero_le 3) (by decide), (h.2.2.2.2.2 3).2⟩

end Profile

end Multilink
