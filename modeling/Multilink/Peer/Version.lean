import Multilink.Text.Numeral
/-!
# Protocol versions

The version that a node announces: two numbers of one byte with a point between.
-/

namespace Multilink

/-- A protocol version. -/
structure Version where
  /-- The first number. -/
  major : UInt8 := 0
  /-- The second number. -/
  minor : UInt8 := 0
  deriving DecidableEq, Repr

namespace Version

/-- The version spoken here. -/
def current : Version := ⟨1, 0⟩

/-- Both numbers in decimal with a point between. -/
def text (v : Version) : String :=
  Numeral.decimal v.major.toNat ++ "." ++ Numeral.decimal v.minor.toNat

/-- The text before the first point and the text behind it. -/
def splitPoint? : List Char → Option (List Char × List Char)
  | [] => none
  | '.' :: rest => some ([], rest)
  | c :: rest => (splitPoint? rest).map fun (a, b) => (c :: a, b)

/-- Reads a version: the first point divides the two numbers. -/
def read? (s : String) : Option Version := do
  let (major, minor) ← splitPoint? s.toList
  let major ← Numeral.readByte? (String.ofList major)
  let minor ← Numeral.readByte? (String.ofList minor)
  pure ⟨major, minor⟩

/-- What is reported for a text that is no version. -/
def malformed (s : String) : String :=
  "invalid version: " ++ s

/-- Versions are ordered by their first number, then by their second. -/
def compare (v w : Version) : Ordering :=
  (Ord.compare v.major w.major).then (Ord.compare v.minor w.minor)

end Version

end Multilink
