import Multilink.Text.Numeral
/-!
# Decimal places

Numbers with a fixed count of decimal places. A number of single precision is a whole number times a
power of two, so its decimal is found exactly, and only the last place is rounded, to the even digit
if the number lies half way.
-/

namespace Multilink.Places

/-- The whole number next to a quotient; half way it is the even one. -/
def roundDiv (num den : Nat) : Nat :=
  let q := num / den
  let twice := 2 * (num % den)
  if twice < den ∨ (twice = den ∧ q % 2 = 0) then q else q + 1

/-- A count of units of the last place, with a point before the places. -/
def point (places units : Nat) : String :=
  let digits := Nat.toDigits 10 units
  let padded := List.replicate (places + 1 - digits.length) '0' ++ digits
  let whole := padded.length - places
  String.ofList (padded.take whole)
    ++ (if places = 0 then "" else "." ++ String.ofList (padded.drop whole))

/-- The number `m * 2 ^ e / 2 ^ k` with so many places. -/
def ofScaled (places m e k : Nat) : String :=
  point places (roundDiv (m * Nat.pow 2 e * Nat.pow 10 places) (Nat.pow 2 k))

/-- A number of single precision by its bits, with so many places. The sign of zero is kept. -/
def ofBits (places bits : Nat) : String :=
  let exponent := bits / 0x800000 % 0x100
  let fraction := bits % 0x800000
  let sign := if bits / 0x80000000 % 2 = 1 then "-" else ""
  if exponent = 255 then
    if fraction = 0 then sign ++ "inf" else "NaN"
  else if exponent = 0 then sign ++ ofScaled places fraction 0 149
  else sign ++ ofScaled places (0x800000 + fraction) exponent 150

/-- A number of single precision with so many places. -/
def decimal (places : Nat) (x : Float32) : String :=
  ofBits places x.toBits.toNat

end Multilink.Places
