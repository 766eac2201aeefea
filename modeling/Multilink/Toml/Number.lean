import Multilink.Data
import Multilink.Text.Numeral
import Multilink.Toml.Layout
/-!
# Numbers of TOML

Integers have 64 bits. A number with a point or an exponent has to be finite when it is rounded to
double precision, unless it is negative; its value is not kept, because no setting is such a number.
-/

namespace Multilink.Toml

/-- Is this a digit of the base? -/
def isDigit (base : Nat) (c : Char) : Bool :=
  (Numeral.digit? base c).isSome

/-- A sign, if there is one: is it a minus? -/
def sign : Scan Bool := do
  let s ← Scan.optional (Scan.one fun c => c = '+' || c = '-')
  pure (s == some '-')

/-- Decimal digits without needless zeros in front. -/
def wholeDigits : Scan (List Char) := do
  match ← Scan.one (isDigit 10) with
  | '0' => pure ['0']
  | first => do
    let more ← Scan.run (isDigit 10)
    let others ← Scan.many do
      Scan.exactly '_'
      Scan.run1 (isDigit 10)
    pure (first :: more ++ others.flatten)

/-- An integer, if it has 64 bits. -/
def bounded (n : Int) : Scan Data :=
  if Data.isWord64 n then pure (.integer n) else failure

/-- The value of decimal digits. -/
def valueOf (digits : List Char) : Nat :=
  (Numeral.value? 10 0 digits).getD 0

/-- A decimal integer. -/
def decimalInteger : Scan Data := do
  let negative ← sign
  let digits ← wholeDigits
  let n : Int := valueOf digits
  bounded (if negative then -n else n)

/-- An integer of another base, behind a zero and a letter. -/
def basedInteger (letter : Char) (base : Nat) : Scan Data := do
  Scan.word ['0', letter]
  let digits ← Scan.digits (isDigit base)
  match Numeral.value? base 0 digits with
  | some n => bounded n
  | none => failure

/-- An integer of any form. -/
def integer : Scan Data :=
  basedInteger 'x' 16 <|> basedInteger 'o' 8 <|> basedInteger 'b' 2 <|> decimalInteger

/-- The exponent of a number. -/
def exponent : Scan Int := do
  let _ ← Scan.one fun c => c = 'e' || c = 'E'
  let negative ← sign
  let n : Int := valueOf (← Scan.digits (isDigit 10))
  pure (if negative then -n else n)

/-- The digits behind the point. -/
def places : Scan (List Char) := do
  Scan.exactly '.'
  Scan.digits (isDigit 10)

/-- The least number that double precision rounds to infinity. -/
def overflow : Nat :=
  Nat.pow 2 1024 - Nat.pow 2 970

/-- Is the number with these digits, times this power of ten, too large for double precision? How
many digits it has before the point settles all but the close cases. -/
def tooLarge (digits : List Char) (power : Int) : Bool :=
  let n := valueOf digits
  let length : Int := (Nat.toDigits 10 n).length
  if n = 0 ∨ length + power < 300 then false
  else if 310 < length + power then true
  else overflow * Nat.pow 10 (-power).toNat ≤ n * Nat.pow 10 power.toNat

/-- A number with a point or an exponent. -/
def finiteReal : Scan Data := do
  let negative ← sign
  let whole ← wholeDigits
  let ps ← (some <$> places) <|> pure none
  let e ← match ps with
    | none => exponent
    | some _ => exponent <|> pure 0
  let ps := ps.getD []
  if !negative && tooLarge (whole ++ ps) (e - ps.length) then failure else pure .real

/-- Infinity, or what is no number. -/
def specialReal : Scan Data := do
  let _ ← sign
  Scan.word ['i', 'n', 'f'] <|> Scan.word ['n', 'a', 'n']
  pure .real

/-- A number of any form. -/
def number : Scan Data :=
  finiteReal <|> specialReal <|> integer

end Multilink.Toml
