import Mathlib
import Multilink.Score.Number
/-!
# Shares of counts are from zero to one

The quotient of two counts as single-precision floats, of which the first is not the larger one, is
neither below zero nor above one (`Share.quotient_bounds`), although both counts and the quotient are
rounded.

The positive floats with a mantissa of 24 bits are in the order of their ordinals, the mantissa plus
`2 ^ 23` times the exponent. A mantissa that rounds up to a 25th bit is shifted into the next
exponent, and that is the next ordinal. So rounding keeps the order of counts, and a quotient that is
not above one is not rounded above one.
-/

namespace Multilink

namespace Share

open Float.Model Float.Model.UnpackedFloat

variable {x y : Float32} {c d e f : Int} {m n k : Nat}

/-! ## Ordinals -/

/-- The float is a positive number `m * 2 ^ e` with a mantissa of 24 bits and this ordinal. -/
def HasOrdinal (x : Float32) (c : Int) : Prop :=
  ∃ (m : Nat) (e : Int) (h : 0 < m), m.log2 = 23 ∧ c = e * 2 ^ 23 + m ∧
    x.toModel.unpack = .finite .positive m e h

theorem bounds_of_log2 (h : 0 < m) (hm : m.log2 = k) : 2 ^ k ≤ m ∧ m < 2 ^ (k + 1) :=
  (Nat.log2_eq_iff (Nat.ne_of_gt h)).1 hm

theorem log2_of_bounds (hlow : 2 ^ k ≤ m) (hhigh : m < 2 ^ (k + 1)) : m.log2 = k :=
  (Nat.log2_eq_iff (Nat.ne_of_gt (Nat.lt_of_lt_of_le (Nat.two_pow_pos k) hlow))).2 ⟨hlow, hhigh⟩

theorem HasOrdinal.lt_iff (hx : HasOrdinal x c) (hy : HasOrdinal y d) : x < y ↔ c < d := by
  obtain ⟨m, e, h, hm, rfl, hx⟩ := hx
  obtain ⟨n, f, h', hn, rfl, hy⟩ := hy
  have hcompare : x < y ↔ (compare e f).then (compare m n) = .lt := by
    show x.lt y = true ↔ _
    rw [Float32.lt, decide_eq_true_iff]
    show Float32.Model.lt _ _ = true ↔ _
    rw [Float32.Model.lt, hx, hy]
    simp [UnpackedFloat.lt, UnpackedFloat.compare]
  have hmbounds := bounds_of_log2 h hm
  have hnbounds := bounds_of_log2 h' hn
  rw [hcompare, Ordering.then_eq_lt, Int.compare_eq_lt, Int.compare_eq_eq, Nat.compare_eq_lt]
  omega

theorem HasOrdinal.not_lt_zero (hx : HasOrdinal x c) : ¬ x < Float32.ofNat 0 := by
  obtain ⟨m, e, h, -, -, hx⟩ := hx
  show ¬ x.lt (Float32.ofNat 0) = true
  rw [Float32.lt, decide_eq_true_iff]
  show ¬ Float32.Model.lt _ _ = true
  rw [Float32.Model.lt, hx, show (Float32.ofNat 0).toModel.unpack = .zero .positive by rfl]
  exact Bool.false_ne_true

/-! ## Packing -/

/-- Such a number is the same after it has been packed into 32 bits. -/
theorem unpack_pack (h : 0 < m) (hm : m.log2 = 23) (hleast : -149 ≤ e) (hmost : e ≤ 104) :
    (Float32.Model.pack (.finite .positive m e h)).unpack = .finite .positive m e h := by
  obtain ⟨b, hb⟩ : ∃ b : Nat, (b : Int) = e + 150 := ⟨(e + 150).toNat, by omega⟩
  have hbiased : (e + 127 + 23).toNat = b := by omega
  have hpack : UnpackedFloat.pack .binary32 (.finite .positive m e h) =
      packComponents .binary32 .positive (BitVec.ofNat 8 b) (BitVec.ofNat 23 m) := by
    show (if 2 ^ 8 ≤ (e + 127 + 23).toNat + 1 then _ else if m.log2 + 1 = 24 then _ else _) = _
    rw [if_neg (by omega), if_pos (by omega), ← hbiased]
    rfl
  have hexponent : (BitVec.ofNat 8 b).toNat = b := by
    rw [BitVec.toNat_ofNat]
    omega
  have hfinite : BitVec.ofNat 8 b ≠ -1#8 := fun he => by
    have : b = 255 := hexponent.symm.trans (congrArg BitVec.toNat he)
    omega
  have hnormal : BitVec.ofNat 8 b ≠ 0#8 := fun he => by
    have : b = 0 := hexponent.symm.trans (congrArg BitVec.toNat he)
    omega
  have hmantissa : (1#1 ++ BitVec.ofNat 23 m).toNat = m := by
    rw [BitVec.toNat_append, ← Nat.shiftLeft_add_eq_or_of_lt (BitVec.isLt _), BitVec.toNat_ofNat]
    have hbounds := bounds_of_log2 h hm
    show 2 ^ 23 + m % 2 ^ 23 = m
    omega
  show UnpackedFloat.unpack .binary32 (UnpackedFloat.pack .binary32 _) = _
  rw [hpack, UnpackedFloat.unpack]
  simp only [unpackMantissa_packComponents, unpackExponent_packComponents,
    unpackSign_packComponents, Sign.ofBitVec_toBitVec, hmantissa, hexponent, hfinite, hnormal,
    if_false]
  congr 1
  show (b : Int) - (127 + 23) = e
  omega

/-! ## Rounding -/

variable {em em' : ExtendedMantissa} {acc : Accuracy}

/-- A mantissa with the two bits behind it, as one number. -/
def weight (em : ExtendedMantissa) : Nat :=
  4 * em.mantissa + 2 * em.roundBit.toNat + em.stickyBit.toNat

theorem shift_succ (em : ExtendedMantissa) (k : Nat) :
    em >>> (k + 1) = (em >>> k).shiftRightOne := rfl

theorem shift_add (em : ExtendedMantissa) (j k : Nat) : em >>> (j + k) = em >>> j >>> k := by
  induction k with
  | zero => rfl
  | succ k ih => rw [← Nat.add_assoc, shift_succ, shift_succ, ih]

theorem mantissa_shift (em : ExtendedMantissa) (k : Nat) :
    (em >>> k).mantissa = em.mantissa / 2 ^ k := by
  induction k with
  | zero => exact (Nat.div_one _).symm
  | succ k ih =>
    rw [shift_succ, Nat.pow_succ, ← Nat.div_div_eq_div_mul, ← ih]
    rfl

theorem shift_exact (m k : Nat) :
    ExtendedMantissa.mk (m * 2 ^ k) false false >>> k = ⟨m, false, false⟩ := by
  induction k generalizing m with
  | zero =>
    rw [Nat.pow_zero, Nat.mul_one]
    rfl
  | succ k ih =>
    rw [shift_succ, Nat.pow_succ, Nat.mul_comm (2 ^ k), ← Nat.mul_assoc, ih]
    simp [ExtendedMantissa.shiftRightOne]

theorem weight_shiftRightOne (em : ExtendedMantissa) :
    weight em.shiftRightOne = 2 * em.mantissa + (em.roundBit || em.stickyBit).toNat := by
  have hbit : (em.mantissa % 2 != 0).toNat = em.mantissa % 2 := by
    obtain h | h := Nat.mod_two_eq_zero_or_one em.mantissa <;> rw [h] <;> rfl
  show 4 * (em.mantissa / 2) + 2 * (em.mantissa % 2 != 0).toNat +
    (em.roundBit || em.stickyBit).toNat = _
  rw [hbit]
  omega

theorem weight_shiftRightOne_le (h : weight em ≤ weight em') :
    weight em.shiftRightOne ≤ weight em'.shiftRightOne := by
  rw [weight_shiftRightOne, weight_shiftRightOne]
  obtain ⟨m, r, s⟩ := em
  obtain ⟨n, u, v⟩ := em'
  unfold weight at h
  cases r <;> cases s <;> cases u <;> cases v <;> simp at h ⊢ <;> omega

/-- Shifting keeps the order of weights. -/
theorem weight_shift_le (h : weight em ≤ weight em') (k : Nat) :
    weight (em >>> k) ≤ weight (em' >>> k) := by
  induction k with
  | zero => exact h
  | succ k ih => exact weight_shiftRightOne_le ih

/-- Rounding keeps it as well. -/
theorem rounded_le (h : weight em ≤ weight em') : em.roundedMantissa ≤ em'.roundedMantissa := by
  obtain ⟨m, r, s⟩ := em
  obtain ⟨n, u, v⟩ := em'
  cases r <;> cases s <;> cases u <;> cases v <;>
    simp_all [weight, ExtendedMantissa.roundedMantissa, ExtendedMantissa.accuracy,
      Accuracy.roundToNearestEven] <;> omega

theorem rounded_bounds (em : ExtendedMantissa) :
    em.mantissa ≤ em.roundedMantissa ∧ em.roundedMantissa ≤ em.mantissa + 1 := by
  obtain ⟨m, r, s⟩ := em
  cases r <;> cases s <;>
    simp [ExtendedMantissa.roundedMantissa, ExtendedMantissa.accuracy, Accuracy.roundToNearestEven]
  omega

theorem mantissa_ofAccuracy (m : Nat) (acc : Accuracy) :
    (ExtendedMantissa.ofMantissaAndAccuracy m acc).mantissa = m := by
  cases acc with
  | exact => rfl
  | inexact o => cases o <;> rfl

/-- The upper 24 bits of a mantissa, rounded. -/
theorem rounded_shift_bounds (acc : Accuracy) (h : 0 < m) (hm : m.log2 = 23 + k) :
    2 ^ 23 ≤ (ExtendedMantissa.ofMantissaAndAccuracy m acc >>> k).roundedMantissa ∧
      (ExtendedMantissa.ofMantissaAndAccuracy m acc >>> k).roundedMantissa ≤ 2 ^ 24 := by
  obtain ⟨hleast, hmost⟩ := bounds_of_log2 h hm
  have hleast : 2 ^ 23 ≤ m / 2 ^ k := by
    rwa [Nat.le_div_iff_mul_le (Nat.two_pow_pos k), ← Nat.pow_add]
  have hmost : m / 2 ^ k < 2 ^ 24 := by
    rwa [Nat.div_lt_iff_lt_mul (Nat.two_pow_pos k), ← Nat.pow_add,
      show 24 + k = 23 + k + 1 by omega]
  obtain ⟨hlow, hhigh⟩ := rounded_bounds (ExtendedMantissa.ofMantissaAndAccuracy m acc >>> k)
  rw [mantissa_shift, mantissa_ofAccuracy] at hlow hhigh
  omega

theorem shiftToTarget_eq (hm : m.log2 = 23 + k) (hleast : -149 ≤ e + k) :
    shiftToTargetExponent .binary32 m e acc =
      (ExtendedMantissa.ofMantissaAndAccuracy m acc >>> k, e + k) := by
  have htarget : Format.binary32.targetExponent (totalExponent m e) = e + k := by
    show max ((m.log2 : Int) + 1 + e - 24) (-149) = e + k
    omega
  rw [shiftToTargetExponent, htarget, shiftToExponent, show (e + k - e).toNat = k by omega]

/-- A mantissa that has been rounded up to a 25th bit is shifted once more, which keeps the
ordinal. -/
theorem exists_carried (hlow : 2 ^ 23 ≤ m) (hhigh : m ≤ 2 ^ 24) (hleast : -149 ≤ e) :
    ∃ em f, shiftToTargetExponent .binary32 m e .exact = (em, f) ∧ em.mantissa.log2 = 23 ∧
      0 < em.mantissa ∧ e ≤ f ∧ f ≤ e + 1 ∧ f * 2 ^ 23 + em.mantissa = e * 2 ^ 23 + m := by
  obtain hm | hm := Nat.lt_or_eq_of_le hhigh
  · have hlog : m.log2 = 23 := log2_of_bounds hlow hm
    refine ⟨_, _, shiftToTarget_eq (k := 0) hlog (by omega), ?_⟩
    rw [mantissa_shift, mantissa_ofAccuracy, Nat.pow_zero, Nat.div_one]
    exact ⟨hlog, by omega, by omega, by omega, by omega⟩
  · have hlog : m.log2 = 23 + 1 := by rw [hm, Nat.log2_two_pow]
    refine ⟨_, _, shiftToTarget_eq hlog (by omega), ?_⟩
    have hhalf : m / 2 ^ 1 = 2 ^ 23 := by omega
    rw [mantissa_shift, mantissa_ofAccuracy, hhalf, hm]
    exact ⟨Nat.log2_two_pow, Nat.two_pow_pos 23, by omega, by omega, by omega⟩

/-- The ordinal of a number that is rounded comes from its upper bits. -/
theorem hasOrdinal_round (acc : Accuracy) (h : 0 < m) (hm : m.log2 = 23 + k)
    (hleast : -149 ≤ e + k) (hmost : e + k < 104) :
    HasOrdinal (.ofModel (.pack (roundWithAccuracy .binary32 .positive m e acc)))
      ((e + k) * 2 ^ 23 +
        (ExtendedMantissa.ofMantissaAndAccuracy m acc >>> k).roundedMantissa) := by
  obtain ⟨hlow, hhigh⟩ := rounded_shift_bounds acc h hm
  obtain ⟨em, f, hsecond, hlog, hpos, hle, hge, hcarried⟩ := exists_carried hlow hhigh hleast
  have hround : roundWithAccuracy .binary32 .positive m e acc =
      .finite .positive em.mantissa f hpos := by
    rw [roundWithAccuracy, shiftToTarget_eq hm hleast]
    simp only [hsecond]
    rw [dif_neg (Nat.ne_of_gt hpos)]
  rw [hround, ← hcarried]
  exact ⟨_, f, hpos, hlog, rfl, unpack_pack hpos hlog (by omega) (by omega)⟩

/-! ## Counts -/

/-- The ordinal of a positive count, of which the upper 24 bits are kept and rounded. -/
def ordinal (n : Nat) : Int :=
  ((n.log2 : Int) - 23) * 2 ^ 23 +
    (ExtendedMantissa.mk (n * 2 ^ (23 - n.log2)) false false >>> (n.log2 - 23)).roundedMantissa

theorem ordinal_one : ordinal 1 = -22 * 2 ^ 23 := by decide

theorem log2_mul_two_pow (hn : 0 < n) (k : Nat) : (n * 2 ^ k).log2 = n.log2 + k := by
  obtain ⟨hlow, hhigh⟩ := bounds_of_log2 hn rfl
  refine log2_of_bounds ?_ ?_
  · rw [Nat.pow_add]
    exact Nat.mul_le_mul_right _ hlow
  · rw [Nat.add_right_comm, Nat.pow_add]
    exact Nat.mul_lt_mul_of_pos_right hhigh (Nat.two_pow_pos k)

theorem ordinal_bounds (hn : 0 < n) :
    ((n.log2 : Int) - 22) * 2 ^ 23 ≤ ordinal n ∧ ordinal n ≤ ((n.log2 : Int) - 21) * 2 ^ 23 := by
  have hlog : (n * 2 ^ (23 - n.log2)).log2 = 23 + (n.log2 - 23) := by
    rw [log2_mul_two_pow hn]
    omega
  have hpos : 0 < n * 2 ^ (23 - n.log2) := Nat.mul_pos hn (Nat.two_pow_pos _)
  obtain ⟨hlow, hhigh⟩ := rounded_shift_bounds .exact hpos hlog
  rw [ExtendedMantissa.ofMantissaAndAccuracy] at hlow hhigh
  unfold ordinal
  omega

/-- Counts keep their order. -/
theorem ordinal_le (hm : 0 < m) (h : m ≤ n) : ordinal m ≤ ordinal n := by
  have hn := Nat.lt_of_lt_of_le hm h
  have hlog : m.log2 ≤ n.log2 :=
    (Nat.le_log2 (Nat.ne_of_gt hn)).2 (Nat.le_trans (Nat.log2_self_le (Nat.ne_of_gt hm)) h)
  obtain hlt | heq := Nat.lt_or_eq_of_le hlog
  · have hmost := (ordinal_bounds hm).2
    have hleast := (ordinal_bounds hn).1
    omega
  · have hweight : weight ⟨m * 2 ^ (23 - n.log2), false, false⟩ ≤
        weight ⟨n * 2 ^ (23 - n.log2), false, false⟩ :=
      Nat.mul_le_mul_left 4 (Nat.mul_le_mul_right _ h)
    have hrounded := rounded_le (weight_shift_le hweight (n.log2 - 23))
    unfold ordinal
    rw [heq]
    omega

/-- Multiplying by one changes nothing. -/
theorem HasOrdinal.mul_one (hx : HasOrdinal x c) (hy : HasOrdinal y (ordinal 1))
    (hleast : -100 * 2 ^ 23 ≤ c) (hmost : c ≤ 100 * 2 ^ 23) : HasOrdinal (x * y) c := by
  obtain ⟨m, e, h, hm, rfl, hx⟩ := hx
  obtain ⟨n, f, h', hn, hone, hy⟩ := hy
  rw [ordinal_one] at hone
  have hmbounds := bounds_of_log2 h hm
  have hnbounds := bounds_of_log2 h' hn
  obtain rfl : f = -23 := by omega
  obtain rfl : n = 2 ^ 23 := by omega
  have hmul : x * y = .ofModel (.pack
      (roundWithAccuracy .binary32 .positive (m * 2 ^ 23) (e + -23) .exact)) := by
    show Float32.ofModel (Float32.Model.pack (UnpackedFloat.mul .binary32 _ _)) = _
    rw [hx, hy]
    rfl
  have hlog : (m * 2 ^ 23).log2 = 23 + 23 := by rw [log2_mul_two_pow h, hm]
  have hround := hasOrdinal_round .exact (Nat.mul_pos h (Nat.two_pow_pos 23)) hlog
    (e := e + -23) (by omega) (by omega)
  rw [ExtendedMantissa.ofMantissaAndAccuracy, shift_exact] at hround
  rw [hmul, show e * 2 ^ 23 + (m : Int) = (e + -23 + (23 : Nat)) * 2 ^ 23 + m by omega]
  exact hround

theorem hasOrdinal_toFloat32 (hn : 0 < n) (h : n < 2 ^ 23) :
    HasOrdinal n.toUInt64.toFloat32 (ordinal n) := by
  have hlog : n.log2 < 23 := (Nat.log2_lt (Nat.ne_of_gt hn)).2 h
  have hround : n.toUInt64.toFloat32 = .ofModel (.pack (roundWithAccuracy .binary32 .positive
      (n * 2 ^ (23 - n.log2)) ((n.log2 : Int) - 23) .exact)) := by
    have hnat : n.toUInt64.toNat = n := Nat.mod_eq_of_lt (by omega)
    have htarget : Format.binary32.targetExponent (totalExponent n 0) = (n.log2 : Int) - 23 := by
      show max ((n.log2 : Int) + 1 + 0 - 24) (-149) = _
      omega
    show Float32.ofModel (.pack (UnpackedFloat.normalize .binary32 n.toUInt64.toNat 0 _)) = _
    rw [hnat, UnpackedFloat.normalize, Int.compare_eq_gt.2 (by omega)]
    simp only [Int.toNat_natCast, UnpackedFloat.round, htarget, decreaseExponent, Nat.shiftLeft_eq]
    rw [show (0 - ((n.log2 : Int) - 23)).toNat = 23 - n.log2 by omega,
      show (0 : Int) - (23 - n.log2 : Nat) = (n.log2 : Int) - 23 by omega]
  have hlog' : (n * 2 ^ (23 - n.log2)).log2 = 23 + 0 := by
    rw [log2_mul_two_pow hn]
    omega
  have hrounded := hasOrdinal_round .exact (Nat.mul_pos hn (Nat.two_pow_pos _)) hlog'
    (e := (n.log2 : Int) - 23) (by omega) (by omega)
  rw [Int.natCast_zero, Int.add_zero] at hrounded
  rw [hround, ordinal, show n.log2 - 23 = 0 by omega]
  exact hrounded

theorem hasOrdinal_ofScientific (h : 2 ^ 23 ≤ n) (hn : n < 2 ^ 32) :
    HasOrdinal (.ofModel (Float32.Model.ofScientific n 0)) (ordinal n) := by
  have hpos : 0 < n := Nat.lt_of_lt_of_le (Nat.two_pow_pos 23) h
  have hleast : 23 ≤ n.log2 := (Nat.le_log2 (Nat.ne_of_gt hpos)).2 h
  have hmost : n.log2 < 32 := (Nat.log2_lt (Nat.ne_of_gt hpos)).2 hn
  have hround : Float32.Model.ofScientific n 0 =
      .pack (roundWithAccuracy .binary32 .positive (n * 2 ^ 24) (-24) .exact) := by
    have hlarge : ¬ (0 : Int) < -(2 ^ 8 + (n.log2 : Int)) := by omega
    rw [Float32.Model.ofScientific, UnpackedFloat.ofScientific, dif_neg (Nat.ne_of_gt hpos),
      if_neg (by decide), if_neg hlarge, if_pos (by decide), UnpackedFloat.mul, Nat.shiftLeft_eq,
      Int.toNat_zero, Nat.pow_zero, Nat.mul_one]
    rfl
  have hlog : (n * 2 ^ 24).log2 = 23 + (n.log2 + 1) := by
    rw [log2_mul_two_pow hpos]
    omega
  have hrounded := hasOrdinal_round .exact (Nat.mul_pos hpos (Nat.two_pow_pos 24)) hlog
    (e := -24) (by omega) (by omega)
  rw [ExtendedMantissa.ofMantissaAndAccuracy, show n.log2 + 1 = 24 + (n.log2 - 23) by omega,
    shift_add, shift_exact] at hrounded
  rw [hround, ordinal, show 23 - n.log2 = 0 by omega, Nat.pow_zero, Nat.mul_one,
    show (n.log2 : Int) - 23 = -24 + (24 + (n.log2 - 23) : Nat) by omega]
  exact hrounded

theorem hasOrdinal_ofNat (hpos : 0 < n) (hn : n < 2 ^ 32) :
    HasOrdinal (Float32.ofNat n) (ordinal n) := by
  show HasOrdinal (Float32.ofScientific n false 0) _
  unfold Float32.ofScientific
  split
  · next hsmall =>
    have hlog : n.log2 < 23 := (Nat.log2_lt (Nat.ne_of_gt hpos)).2 hsmall.1
    have hone : HasOrdinal (Float32.ofBits 0x3F800000) (ordinal 1) :=
      ⟨2 ^ 23, -23, by decide, Nat.log2_two_pow, by decide, by rfl⟩
    obtain ⟨hleast, hmost⟩ := ordinal_bounds hpos
    exact (hasOrdinal_toFloat32 hpos hsmall.1).mul_one hone (by omega) (by omega)
  · next hlarge => exact hasOrdinal_ofScientific (by omega) hn

/-! ## Quotients -/

/-- Both mantissas have 24 bits, so that the quotient has as many if 24 are added to the first. -/
theorem divCore_eq (hm : m.log2 = 23) (hn : n.log2 = 23) (hspan : -100 ≤ e - f) :
    divCore .binary32 m e n f =
      (m * 2 ^ 24 / n, e - f - 24, accuracyOfFraction (m * 2 ^ 24 % n) n) := by
  have htarget : Format.binary32.targetExponent (totalExponent m e - totalExponent n f) =
      e - f - 24 := by
    show max (((m.log2 : Int) + 1 + e) - ((n.log2 : Int) + 1 + f) - 24) (-149) = _
    omega
  rw [divCore, htarget, Nat.shiftLeft_eq, Int.min_eq_right (by omega),
    show (e - f - (e - f - 24)).toNat = 24 by omega]

/-- The quotient of a number by one that is not smaller has at most the ordinal of one. -/
theorem HasOrdinal.div_le (hx : HasOrdinal x c) (hy : HasOrdinal y d) (hle : c ≤ d)
    (hleast : -30 * 2 ^ 23 ≤ c) (hmost : d ≤ 30 * 2 ^ 23) :
    ∃ q, HasOrdinal (x / y) q ∧ q ≤ ordinal 1 := by
  obtain ⟨m, e, h, hm, rfl, hx⟩ := hx
  obtain ⟨n, f, h', hn, rfl, hy⟩ := hy
  obtain ⟨hlow, hhigh⟩ := bounds_of_log2 h hm
  obtain ⟨hlow', hhigh'⟩ := bounds_of_log2 h' hn
  have hdiv : x / y = .ofModel (.pack (roundWithAccuracy .binary32 .positive (m * 2 ^ 24 / n)
      (e - f - 24) (accuracyOfFraction (m * 2 ^ 24 % n) n))) := by
    show Float32.ofModel (Float32.Model.pack (UnpackedFloat.div .binary32 _ _)) = _
    rw [hx, hy, UnpackedFloat.div, divCore_eq hm hn (by omega)]
    rfl
  have hquotient : 2 ^ 23 ≤ m * 2 ^ 24 / n := (Nat.le_div_iff_mul_le h').2 (by omega)
  have hquotient' : m * 2 ^ 24 / n < 2 ^ 25 := (Nat.div_lt_iff_lt_mul h').2 (by omega)
  have hpos : 0 < m * 2 ^ 24 / n := by omega
  rw [hdiv, ordinal_one]
  obtain hq | hq := Nat.lt_or_ge (m * 2 ^ 24 / n) (2 ^ 24)
  · have hlog : (m * 2 ^ 24 / n).log2 = 23 + 0 := log2_of_bounds hquotient hq
    obtain ⟨-, htop⟩ := rounded_shift_bounds (accuracyOfFraction (m * 2 ^ 24 % n) n) hpos hlog
    exact ⟨_, hasOrdinal_round _ hpos hlog (by omega) (by omega), by omega⟩
  · have hlog : (m * 2 ^ 24 / n).log2 = 23 + 1 := log2_of_bounds hq hquotient'
    obtain ⟨-, htop⟩ := rounded_shift_bounds (accuracyOfFraction (m * 2 ^ 24 % n) n) hpos hlog
    refine ⟨_, hasOrdinal_round _ hpos hlog (by omega) (by omega), ?_⟩
    obtain hef | rfl : e < f ∨ e = f := by omega
    · omega
    · -- the quotient is at least one, so that both numbers are the same
      have hnm : n ≤ m := by
        have := (Nat.le_div_iff_mul_le h').1 hq
        omega
      obtain rfl : m = n := by omega
      have hone : ExtendedMantissa.ofMantissaAndAccuracy (m * 2 ^ 24 / m)
          (accuracyOfFraction (m * 2 ^ 24 % m) m) >>> 1 = ⟨2 ^ 23, false, false⟩ := by
        rw [Nat.mul_div_cancel_left _ h, Nat.mul_mod_right]
        exact shift_exact (2 ^ 23) 1
      have heven : (ExtendedMantissa.mk (2 ^ 23) false false).roundedMantissa = 2 ^ 23 := rfl
      rw [hone, heven]
      omega

/-- The quotient of a count by one that is not smaller is from zero to one. -/
theorem quotient_bounds (h : m ≤ n) (hpos : 0 < n) (hn : n < 2 ^ 32) :
    ¬ Float32.ofNat m / Float32.ofNat n < Float32.ofNat 0 ∧
      ¬ Float32.ofNat 1 < Float32.ofNat m / Float32.ofNat n := by
  have hy := hasOrdinal_ofNat hpos hn
  obtain rfl | hm := Nat.eq_zero_or_pos m
  · obtain ⟨k, e, hk, -, -, hunpack⟩ := hy
    have hzero : Float32.ofNat 0 / Float32.ofNat n = .ofModel (.pack (.zero .positive)) := by
      show Float32.ofModel (Float32.Model.pack (UnpackedFloat.div .binary32 _ _)) = _
      rw [hunpack]
      rfl
    rw [hzero]
    decide +kernel
  · have hlog : n.log2 < 32 := (Nat.log2_lt (Nat.ne_of_gt hpos)).2 hn
    obtain ⟨hleast, -⟩ := ordinal_bounds hm
    obtain ⟨-, hmost⟩ := ordinal_bounds hpos
    have hx := hasOrdinal_ofNat hm (Nat.lt_of_le_of_lt h hn)
    obtain ⟨q, hq, hle⟩ := hx.div_le hy (ordinal_le hm h) (by omega) (by omega)
    have hone : HasOrdinal (Float32.ofNat 1) (ordinal 1) :=
      hasOrdinal_ofNat (by decide) (by decide)
    exact ⟨hq.not_lt_zero, fun hlt => absurd ((hone.lt_iff hq).1 hlt) (Int.not_lt.2 hle)⟩

end Share

end Multilink
