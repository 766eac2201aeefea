import Multilink.Text.Parts
/-!
# Lines

A text as lines, each of which ends in a line feed, which a carriage return may precede. The last
line may lack it.
-/

namespace Multilink.Lines

/-- The text with these lines. -/
def join (lines : List String) : String :=
  String.join (lines.map (· ++ "\n"))

/-- A line without the carriage return before its line feed. -/
def bare (line : List Char) : List Char :=
  if line.getLast? = some '\r' then line.dropLast else line

/-- The lines of a text. -/
def split (s : String) : List String :=
  let parts := Parts.split (· == '\n') s.toList
  let last := parts.getLast?.toList.filter (!·.isEmpty)
  (parts.dropLast.map bare ++ last).map String.ofList

end Multilink.Lines
