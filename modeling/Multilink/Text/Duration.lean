import Multilink.Text.Numeral
/-!
# Durations as text

A duration is shown in the largest unit that it reaches, with the places that it needs.
-/

namespace Multilink.Duration

/-- A number with the part below its unit, which has so many places, without zeros at its end. -/
def withPart (whole part places : Nat) : String :=
  let digits := Nat.toDigits 10 part
  let all := List.replicate (places - digits.length) '0' ++ digits
  match (all.reverse.dropWhile (· == '0')).reverse with
  | [] => Numeral.decimal whole
  | shown => Numeral.decimal whole ++ "." ++ String.ofList shown

/-- The text of a duration in microseconds. -/
def text (micros : Nat) : String :=
  if 1000000 ≤ micros then withPart (micros / 1000000) (micros % 1000000) 6 ++ "s"
  else if 1000 ≤ micros then withPart (micros / 1000) (micros % 1000) 3 ++ "ms"
  else if 0 < micros then Numeral.decimal micros ++ "µs"
  else "0ns"

end Multilink.Duration
