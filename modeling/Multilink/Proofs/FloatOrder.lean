import Mathlib
/-!
# The order of single-precision floats

All floats but the one that is no number have a place in one linear order: `FloatOrder.rank` tells the
place, and the comparisons of two floats are those of their places. The two zeros share one.
-/

namespace Multilink

namespace FloatOrder

open Float.Model Float.Model.UnpackedFloat

/-- The place of a float: its sign comes first, and whether it is finite, then the exponent, then the
mantissa. What is no number is put with the zeros, and no lemma is about it. -/
def place : UnpackedFloat → ℤ ×ₗ ℤ ×ₗ ℤ
  | .infinity s => toLex (s.apply 2, toLex (0, 0))
  | .finite s m e _ => toLex (s.apply 1, toLex (s.apply e, s.apply m))
  | .zero _ | .notANumber => toLex (0, toLex (0, 0))

variable {u v : UnpackedFloat} {x y : Float32}

@[simp] theorem compare_sign (s t : Sign) : compare s t = compare (s.apply 1) (t.apply 1) := by
  cases s <;> cases t <;> rfl

-- floats of different kinds or signs differ in the first component; only two finite ones of the same
-- sign are told apart by the others

theorem compare_eq_lt_iff (hu : u.isNaN = false) (hv : v.isNaN = false) :
    u.compare v = some .lt ↔ place u < place v := by
  rcases u with (_ | _) | - | _ | ⟨_ | _, m, e, _⟩ <;>
    rcases v with (_ | _) | - | _ | ⟨_ | _, n, f, _⟩ <;>
    first
    | contradiction
    | simp [UnpackedFloat.compare, place, Sign.apply, Prod.Lex.toLex_lt_toLex, Ordering.then_eq_lt,
        Ordering.then_eq_gt, Int.compare_eq_lt, Int.compare_eq_gt, Nat.compare_eq_lt, Nat.compare_eq_gt]

theorem compare_eq_eq_iff (hu : u.isNaN = false) (hv : v.isNaN = false) :
    u.compare v = some .eq ↔ place u = place v := by
  rcases u with (_ | _) | - | _ | ⟨_ | _, m, e, _⟩ <;>
    rcases v with (_ | _) | - | _ | ⟨_ | _, n, f, _⟩ <;>
    first
    | contradiction
    | simp [UnpackedFloat.compare, place, Sign.apply]

/-- The place of a float that is a number. -/
def rank (x : Float32) : ℤ ×ₗ ℤ ×ₗ ℤ :=
  place x.toModel.unpack

theorem lt_iff (hx : x.isNaN = false) (hy : y.isNaN = false) : x < y ↔ rank x < rank y := by
  rw [rank, rank, ← compare_eq_lt_iff hx hy]
  show x.lt y = true ↔ _
  rw [Float32.lt, decide_eq_true_iff]
  show Float32.Model.lt _ _ = true ↔ _
  rw [Float32.Model.lt, UnpackedFloat.lt, beq_iff_eq]

theorem beq_iff (hx : x.isNaN = false) (hy : y.isNaN = false) : (x == y) = true ↔ rank x = rank y := by
  rw [rank, rank, ← compare_eq_eq_iff hx hy]
  show Float32.Model.beq _ _ = true ↔ _
  rw [Float32.Model.beq, UnpackedFloat.beq, beq_iff_eq]

theorem le_iff (hx : x.isNaN = false) (hy : y.isNaN = false) : x ≤ y ↔ rank x ≤ rank y := by
  rw [le_iff_lt_or_eq, rank, rank, ← compare_eq_lt_iff hx hy, ← compare_eq_eq_iff hx hy]
  show x.le y = true ↔ _
  rw [Float32.le, decide_eq_true_iff]
  show Float32.Model.le _ _ = true ↔ _
  rw [Float32.Model.le, UnpackedFloat.le]
  rcases x.toModel.unpack.compare y.toModel.unpack with - | (- | - | -) <;> simp

end FloatOrder

end Multilink
