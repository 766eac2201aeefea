import Multilink.Text.Hidden
/-!
# Quoted texts

A text between marks, in which every character can be seen: marks and backslashes have a backslash
before them, the usual controls have a letter, and hidden characters are written by their code
points.
-/

namespace Multilink.Quoted

/-- The mark around a text. -/
def double : Char := '"'

/-- The mark around a single character. -/
def single : Char := Char.ofNat 39

/-- How a character is written between two such marks. -/
def escape (mark c : Char) : List Char :=
  if c = Char.ofNat 0 then ['\\', '0']
  else if c = '\t' then ['\\', 't']
  else if c = '\r' then ['\\', 'r']
  else if c = '\n' then ['\\', 'n']
  else if c = mark ∨ c = '\\' then ['\\', c]
  else if Hidden.hidden.has c then
    "\\u\x7b".toList ++ Nat.toDigits 16 c.toNat ++ ['\x7d']
  else [c]

/-- Characters between two marks. -/
def quote (mark : Char) (cs : List Char) : String :=
  String.ofList (mark :: cs.flatMap (escape mark) ++ [mark])

/-- A text between its marks. -/
def text (s : String) : String :=
  quote double s.toList

/-- A character between its marks. -/
def char (c : Char) : String :=
  quote single [c]

end Multilink.Quoted
