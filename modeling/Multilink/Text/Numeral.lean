/-!
# Numerals

Unsigned numbers as text: an optional plus sign, then one or more digits of the base, either case,
leading zeros allowed. Versions, announced media, announced windows and hardware addresses are all
read through `Numeral.read?`, which also bounds the value.
-/

namespace Multilink.Numeral

/-- The value of `c` as a digit of `base`, for bases up to sixteen. -/
def digit? (base : Nat) (c : Char) : Option Nat :=
  let value :=
    if '0' ≤ c ∧ c ≤ '9' then some (c.toNat - 48)
    else if 'a' ≤ c ∧ c ≤ 'f' then some (c.toNat - 87)
    else if 'A' ≤ c ∧ c ≤ 'F' then some (c.toNat - 55)
    else none
  value.filter (· < base)

/-- The value of a row of digits, the first of which counts most, on top of `high`. -/
def value? (base : Nat) (high : Nat) : List Char → Option Nat
  | [] => some high
  | c :: rest => (digit? base c).bind fun d => value? base (high * base + d) rest

/-- The text without one leading plus sign. -/
def dropPlus : List Char → List Char
  | '+' :: rest => rest
  | cs => cs

/-- Reads an unsigned numeral whose value is at most `limit`. -/
def read? (base limit : Nat) (s : String) : Option Nat :=
  match dropPlus s.toList with
  | [] => none
  | digits => (value? base 0 digits).filter (· ≤ limit)

/-- The decimal digits of a number, without leading zeros. -/
def decimal (n : Nat) : String :=
  String.ofList (Nat.toDigits 10 n)

/-- A decimal of one byte. -/
def readByte? (s : String) : Option UInt8 :=
  (read? 10 255 s).map UInt8.ofNat

/-- A decimal of 64 bits. -/
def readWord64? (s : String) : Option UInt64 :=
  (read? 10 0xFFFFFFFFFFFFFFFF s).map UInt64.ofNat

end Multilink.Numeral
