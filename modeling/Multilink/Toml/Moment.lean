import Multilink.Data
import Multilink.Text.Numeral
import Multilink.Toml.Layout
/-!
# Moments of TOML

Dates, times and both together. No setting is a moment, so it is only checked that there is such a
day and such a time of day.
-/

namespace Multilink.Toml

/-- A number of so many decimal digits, within these bounds. -/
def fixedNumber (length least most : Nat) : Scan Nat := do
  let digits ← Scan.count (fun c => (Numeral.digit? 10 c).isSome) length
  let n := (Numeral.value? 10 0 digits).getD 0
  if least ≤ n ∧ n ≤ most then pure n else failure

/-- Has the year a leap day? -/
def isLeap (year : Nat) : Bool :=
  (year % 4 = 0 && year % 100 ≠ 0) || year % 400 = 0

/-- The number of days of a month. -/
def daysIn (year month : Nat) : Nat :=
  if month = 2 then (if isLeap year then 29 else 28)
  else if month ∈ [4, 6, 9, 11] then 30
  else 31

/-- A date. -/
def date : Scan Unit := do
  let year ← fixedNumber 4 0 9999
  Scan.exactly '-'
  let month ← fixedNumber 2 1 12
  Scan.exactly '-'
  let _ ← fixedNumber 2 1 (daysIn year month)

/-- A time of day; there may be a leap second, and parts of a second. -/
def timeOfDay : Scan Unit := do
  let _ ← fixedNumber 2 0 23
  Scan.exactly ':'
  let _ ← fixedNumber 2 0 59
  Scan.exactly ':'
  let _ ← fixedNumber 2 0 60
  let _ ← Scan.optional do
    Scan.exactly '.'
    Scan.run1 fun c => (Numeral.digit? 10 c).isSome

/-- The distance from universal time. -/
def zone : Scan Unit :=
  (fun _ => ()) <$> Scan.one (fun c => c = 'Z' || c = 'z') <|> do
    let _ ← Scan.one fun c => c = '+' || c = '-'
    let _ ← fixedNumber 2 0 23
    Scan.exactly ':'
    let _ ← fixedNumber 2 0 59

/-- A date, a time, or a date with a time and perhaps a zone. -/
def moment : Scan Data := do
  let day : Scan Unit := do
    date
    let _ ← Scan.optional do
      let _ ← Scan.one fun c => c = 'T' || c = 't' || c = ' '
      timeOfDay
      let _ ← Scan.optional zone
  day <|> timeOfDay
  pure .moment

end Multilink.Toml
