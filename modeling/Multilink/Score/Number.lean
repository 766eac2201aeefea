/-!
# Numbers for scores

Scores are computed with the operations of `ScoreNumber` alone, in a fixed order, so that the same
definitions run on single-precision floats and on exact rationals.
-/

namespace Multilink

/-- A kind of number that scores can be computed with. -/
class ScoreNumber (R : Type) extends Add R, Sub R, Mul R, Div R, Neg R where
  /-- The number nearest to a natural number. -/
  ofNat : Nat → R
  /-- Is the first below the second? False if either is no number. -/
  lt : R → R → Bool
  /-- Are both the same number? False if either is no number. -/
  same : R → R → Bool

instance : ScoreNumber Float32 where
  ofNat := Float32.ofNat
  lt a b := a < b
  same a b := a == b

instance : ScoreNumber Rat where
  ofNat n := n
  lt a b := a < b
  same a b := a == b

namespace ScoreNumber

variable {R : Type} [ScoreNumber R]

/-- The larger of `x` and `low`; `low` if `x` is no number. -/
def atLeast (low x : R) : R :=
  if lt low x then x else low

/-- The smaller of `x` and `high`; `high` if `x` is no number. -/
def atMost (high x : R) : R :=
  if lt x high then x else high

/-- The nearest to `x` from `low` up to `high`; `x` itself if it is no number. -/
def clamp (low high x : R) : R :=
  if lt x low then low else if lt high x then high else x

end ScoreNumber

end Multilink
