import Multilink.Toml.Moment
import Multilink.Toml.Number
import Multilink.Toml.Quoted
import Multilink.Toml.Table
/-!
# Keys and values of TOML

A value may hold others, in brackets or in braces. How deep they lie in each other is bounded, as is
the length of a dotted key, by `depthLimit`.
-/

namespace Multilink.Toml

/-- How deep values can lie in each other, and how many parts a key can have. -/
def depthLimit : Nat := 79

/-! ## Keys -/

/-- Can this character stand in a key without marks? -/
def inBareKey (c : Char) : Bool :=
  c.isAlphanum || c = '-' || c = '_'

/-- A part of a key. -/
def keyPart : Scan String :=
  String.ofList <$> Scan.run1 inBareKey <|> basicText <|> literalText

/-- A key: its path and its last part. -/
def key : Scan (List String × String) := do
  let part : Scan String := do
    blanks
    let s ← keyPart
    blanks
    pure s
  let parts ← Scan.separated1 (Scan.exactly '.') part
  match parts.getLast? with
  | none => failure
  | some last => if parts.length ≤ depthLimit then pure (parts.dropLast, last) else failure

/-! ## Values -/

/-- A value that holds no others. -/
def scalar : Scan Data :=
  (Data.text <$> quotedText)
    <|> moment
    <|> number
    <|> (do
      Scan.word "true".toList
      pure (.bool true))
    <|> (do
      Scan.word "false".toList
      pure (.bool false))

/-- Values in brackets. They may stand on several lines, and a comma may follow the last. -/
def brackets (item : Scan Data) : Scan Data := do
  Scan.exactly '['
  let spaced : Scan Data := do
    gap
    let d ← item
    gap
    pure d
  let items ← Scan.separated (Scan.exactly ',') spaced
  if !items.isEmpty then
    let _ ← Scan.optional (Scan.exactly ',')
  gap
  Scan.exactly ']'
  pure (.list items)

/-- A key with its value. -/
def assignment (item : Scan Data) : Scan ((List String × String) × Data) := do
  let k ← key
  Scan.exactly '='
  blanks
  let d ← item
  pure (k, d)

/-- The table with these keys and values. -/
def tableOf : List ((List String × String) × Data) → Table → Option Table
  | [], t => some t
  | ((path, last), d) :: rest, t => (t.define path last d).bind (tableOf rest)

/-- Keys with values in braces, on one line. -/
def braces (item : Scan Data) : Scan Data := do
  Scan.exactly '\x7b'
  blanks
  let entry : Scan ((List String × String) × Data) := do
    let e ← assignment item
    blanks
    pure e
  let entries ← Scan.separated (Scan.exactly ',') entry
  Scan.exactly '\x7d'
  match tableOf entries .empty with
  | some t => pure t.toData
  | none => failure

/-- A value in which others lie at most so deep. -/
def value : Nat → Scan Data
  | 0 => scalar
  | depth + 1 => scalar <|> brackets (value depth) <|> braces (value depth)

end Multilink.Toml
