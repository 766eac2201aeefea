import Multilink.Text.Numeral
import Multilink.Toml.Layout
/-!
# Quoted texts of TOML

A text stands between quotation marks, where a backslash begins an escape, or between apostrophes,
where every character stands for itself. Three marks in place of one enclose a text of several
lines: a line end right after the opening marks is dropped, every other counts as a line feed, and
up to two marks may stand in the text or right before the closing marks.
-/

namespace Multilink.Toml

/-- The mark around a literal text. -/
def apostrophe : Char := Char.ofNat 39

/-- The character with a code point written in so many hexadecimal digits. -/
def codePoint (length : Nat) : Scan Char := do
  let digits ← Scan.count (fun c => (Numeral.digit? 16 c).isSome) length
  match Numeral.value? 16 0 digits with
  | none => failure
  | some n => if n.isValidChar then pure (Char.ofNat n) else failure

/-- The character that an escape stands for, behind its backslash. -/
def escaped : Scan Char := do
  match ← Scan.one fun _ => true with
  | 'b' => pure (Char.ofNat 8)
  | 'f' => pure (Char.ofNat 12)
  | 'n' => pure '\n'
  | 'r' => pure '\r'
  | 't' => pure '\t'
  | '"' => pure '"'
  | '\\' => pure '\\'
  | 'u' => codePoint 4
  | 'U' => codePoint 8
  | _ => failure

/-- A character of a basic text: itself, or an escape. -/
def basicChar : Scan Char :=
  Scan.one (fun c => isPlain c && c ≠ '"' && c ≠ '\\') <|> do
    Scan.exactly '\\'
    escaped

/-- A character of a literal text. -/
def literalChar : Scan Char :=
  Scan.one fun c => isPlain c && c ≠ apostrophe

/-- A text of one line between two marks. -/
def oneLine (mark : Char) (char : Scan Char) : Scan String := do
  Scan.exactly mark
  let cs ← Scan.many char
  Scan.exactly mark
  pure (String.ofList cs)

/-- A backslash at the end of a line, with all blanks and line ends that follow: they stand for
nothing. -/
def continuation : Scan (List Char) := do
  Scan.exactly '\\'
  blanks
  newline
  let _ ← Scan.run fun c => isBlank c || c = '\n'
  let _ ← Scan.many do
    newline
    let _ ← Scan.run fun c => isBlank c || c = '\n'
  pure []

/-- One or two marks, behind which there is no further one. -/
def fewMarks (mark : Char) : Scan (List Char) := do
  let marks ← Scan.run1 (· = mark)
  if marks.length < 3 then pure marks else failure

/-- The marks at the end of a text of several lines: three that close it, and before them those that
belong to it. -/
def closing (mark : Char) : Scan (List Char) := do
  let marks ← Scan.run1 (· = mark)
  if 3 ≤ marks.length ∧ marks.length ≤ 5 then pure (marks.drop 3) else failure

/-- A text of several lines between two rows of three marks. -/
def manyLines (mark : Char) (piece : Scan (List Char)) : Scan String := do
  Scan.word [mark, mark, mark]
  let _ ← Scan.optional newline
  let feed : Scan (List Char) := do
    newline
    pure ['\n']
  let pieces ← Scan.many (piece <|> feed <|> fewMarks mark)
  let last ← closing mark
  pure (String.ofList (pieces.flatten ++ last))

/-- A text between quotation marks. -/
def basicText : Scan String :=
  oneLine '"' basicChar

/-- A text between apostrophes. -/
def literalText : Scan String :=
  oneLine apostrophe literalChar

/-- A quoted text of any form. -/
def quotedText : Scan String :=
  manyLines '"' (((fun c => [c]) <$> basicChar) <|> continuation)
    <|> basicText
    <|> manyLines apostrophe ((fun c => [c]) <$> literalChar)
    <|> literalText

end Multilink.Toml
