import Multilink.PerMedia
import Multilink.Score.Number
/-!
# Media profiles

What payload lengths a medium carries well. Inside the envelope from `idealMin` to `idealMax` the
length costs nothing; outside it costs the more the farther away it is, at a slope given by
`penaltyRate`, and at most a hundred.
-/

namespace Multilink

/-- The payload envelope and nominal speed of a medium. -/
structure Profile (R : Type) where
  /-- The shortest payload that costs nothing. -/
  idealMin : Nat
  /-- The longest payload that costs nothing. -/
  idealMax : Nat
  /-- The slope of the cost outside; a negative one counts as zero. -/
  penaltyRate : R
  /-- The nominal speed in bytes a second. -/
  nominalSpeed : UInt32

namespace Profile

open ScoreNumber

variable {R : Type} [ScoreNumber R]

/-- A number of tenths. -/
def tenths (n : Nat) : R :=
  ofNat n / ofNat 10

/-- The profile of a medium as built in. -/
def builtIn : Media → Profile R
  | .radioShort => ⟨8, 200, tenths 5, 125000⟩
  | .radioMesh => ⟨16, 1024, tenths 4, 50000⟩
  | .radioLong => ⟨4, 64, tenths 10, 700⟩
  | .cellular => ⟨256, 4096, tenths 3, 1000000⟩
  | .busI2c => ⟨2, 32, tenths 8, 50000⟩
  | .busCan => ⟨1, 8, tenths 15, 125000⟩
  | .busTtl => ⟨16, 1024, tenths 3, 11520⟩

/-- What a length costs before the cap: the slope in percent times the distance to the envelope,
relative to the nearer end of it. -/
def penalty (p : Profile R) (length : Nat) : R :=
  let len : R := ofNat length
  let low : R := ofNat p.idealMin
  let high : R := ofNat p.idealMax
  let rate := atLeast (ofNat 0) p.penaltyRate
  if lt len low then rate * ofNat 100 * (low - len) / atLeast (ofNat 1) low
  else if lt high len then rate * ofNat 100 * (len - high) / atLeast (ofNat 1) high
  else ofNat 0

/-- How well a length suits the medium, from -100 to 0. -/
def lengthSuitability (p : Profile R) (length : Nat) : R :=
  -atMost (ofNat 100) (p.penalty length)

end Profile

end Multilink
