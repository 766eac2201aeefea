import Multilink.Data
import Multilink.Text.Numeral
import Multilink.Toml.Quoted
/-!
# Writing TOML

A document is written as blocks with an empty line between them. Each block is a table with its
header and a line for each entry; a list of several values has a line for each value.

A text is written between quotation marks if nothing in it has to be escaped. Otherwise the forms
are tried in which it can stand as it is: between apostrophes, between rows of quotation marks,
between rows of apostrophes. Only if there is none, escapes are used. A text with a line feed always
stands between rows of marks, and begins on a line of its own.
-/

namespace Multilink.Toml

/-! ## Texts -/

/-- Is this a control character? -/
def isControl (c : Char) : Bool :=
  c < ' ' || c.toNat = 0x7F

/-- The length of the longest row of a character, where a row of length `current` has just begun. -/
def longestRow (mark : Char) (current : Nat) : List Char → Nat
  | [] => current
  | c :: rest =>
    if c = mark then longestRow mark (current + 1) rest
    else max current (longestRow mark 0 rest)

/-- The form of a written text. -/
structure TextForm where
  /-- Does every character stand for itself? -/
  literal : Bool
  /-- Are the marks rows of three? -/
  long : Bool
  deriving DecidableEq, Repr

namespace TextForm

/-- The form that a text is written in. -/
def ofText (cs : List Char) : TextForm :=
  let coded := cs.any fun c => isControl c && c ≠ '\t' && c ≠ '\n'
  let slashed := cs.contains '\\'
  let broken := cs.contains '\n'
  let quotes := longestRow '"' 0 cs
  let apostrophes := longestRow apostrophe 0 cs
  if !coded && !slashed && quotes = 0 && !broken then { literal := false, long := false }
  else if !coded && apostrophes = 0 && !broken then { literal := true, long := false }
  else if !coded && !slashed && quotes ≤ 2 then { literal := false, long := true }
  else if !coded && apostrophes ≤ 2 then { literal := true, long := true }
  else { literal := false, long := broken }

/-- The marks at both ends of a text. -/
def marks (f : TextForm) : List Char :=
  List.replicate (if f.long then 3 else 1) (if f.literal then apostrophe else '"')

end TextForm

/-- The last four hexadecimal digits of a number, in upper case. -/
def upperHex (n : Nat) : List Char :=
  [n / 4096, n / 256, n / 16, n].map fun d => (Nat.digitChar (d % 16)).toUpper

/-- How a character other than the quotation mark is written between quotation marks. -/
def escape (long : Bool) (c : Char) : List Char :=
  if c.toNat = 8 then ['\\', 'b']
  else if c = '\t' then ['\\', 't']
  else if c = '\n' then (if long then [c] else ['\\', 'n'])
  else if c.toNat = 12 then ['\\', 'f']
  else if c = '\r' then ['\\', 'r']
  else if c = '\\' then ['\\', c]
  else if isControl c then '\\' :: 'u' :: upperHex c.toNat
  else [c]

/-- What stands between quotation marks, behind a row of `row` quotation marks. In a long text two
quotation marks in a row stand as they are. -/
def escapeAll (long : Bool) (row : Nat) : List Char → List Char
  | [] => []
  | c :: rest =>
    if c = '"' then
      if row < (if long then 2 else 0) then c :: escapeAll long (row + 1) rest
      else '\\' :: c :: escapeAll long 0 rest
    else escape long c ++ escapeAll long 0 rest

/-- A text in its form. -/
def writeText (s : String) : String :=
  let cs := s.toList
  let form := TextForm.ofText cs
  let feed := if form.long && cs.contains '\n' then ['\n'] else []
  let body := if form.literal then cs else escapeAll form.long 0 cs
  String.ofList (form.marks ++ feed ++ body ++ form.marks)

/-! ## Values and blocks -/

/-- An integer in decimal, if it has 64 bits. -/
def writeInteger (n : Int) : Option String :=
  if Data.isWord64 n then
    some ((if n < 0 then "-" else "") ++ Numeral.decimal n.natAbs)
  else none

mutual

/-- A value. Only those that settings are made of can be written. -/
def writeValue : Data → Option String
  | .bool b => some (if b then "true" else "false")
  | .integer n => writeInteger n
  | .text s => some (writeText s)
  | .list [] => some "[]"
  | .list [d] => (writeValue d).map fun s => "[" ++ s ++ "]"
  | .list (d :: ds) => (writeItems (d :: ds)).map fun s => "[\n" ++ s ++ "]"
  | .null | .real | .moment | .record _ => none

/-- The values of a list, each on a line of its own. -/
def writeItems : List Data → Option String
  | [] => some ""
  | d :: ds => do
    let s ← writeValue d
    let rest ← writeItems ds
    pure ("    " ++ s ++ ",\n" ++ rest)

end

/-- A table of a document, under its name, or one of several under the same name. -/
structure Block where
  /-- Is this one of several? -/
  several : Bool
  name : String
  entries : List (String × Data)

/-- The line of an entry. -/
def writeEntry (e : String × Data) : Option String :=
  (writeValue e.2).map fun s => e.1 ++ " = " ++ s ++ "\n"

/-- A block with its header. -/
def writeBlock (b : Block) : Option String := do
  let header := if b.several then "[[" ++ b.name ++ "]]\n" else "[" ++ b.name ++ "]\n"
  let entries ← b.entries.mapM writeEntry
  pure (header ++ String.join entries)

/-- A document of some blocks. -/
def writeBlocks (bs : List Block) : Option String :=
  (bs.mapM writeBlock).map ("\n".intercalate ·)

end Multilink.Toml
