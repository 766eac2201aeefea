import Multilink.Text.Scan
/-!
# Layout of TOML

Blanks, line ends and comments. A line ends in a line feed, which a carriage return may precede.
-/

namespace Multilink.Toml

/-- Is this a space or a tab? -/
def isBlank (c : Char) : Bool :=
  c = ' ' || c = '\t'

/-- Spaces and tabs. -/
def blanks : Scan Unit := do
  let _ ← Scan.run isBlank

/-- The end of a line. -/
def newline : Scan Unit :=
  Scan.exactly '\n' <|> Scan.word ['\r', '\n']

/-- Can this character stand for itself in a comment or a quoted text? Controls of ASCII other than
the tab cannot. -/
def isPlain (c : Char) : Bool :=
  c = '\t' || (' ' ≤ c && c.toNat ≠ 0x7F)

/-- A comment up to the end of its line. -/
def comment : Scan Unit := do
  Scan.exactly '#'
  let _ ← Scan.run isPlain

/-- The end of a line or of the text. -/
def lineEnd : Scan Unit :=
  newline <|> Scan.finish

/-- What may follow the last word of a line: blanks and a comment. -/
def lineRest : Scan Unit := do
  blanks
  let _ ← Scan.optional comment
  lineEnd

/-- Blanks, line ends and whole comments, as may stand between the items of a list. -/
def gap : Scan Unit := do
  let blank : Scan Unit := do
    let _ ← Scan.one isBlank
  let line : Scan Unit := do
    comment
    newline
  let _ ← Scan.many (blank <|> newline <|> line)

end Multilink.Toml
