/-!
# Columns

Texts filled up with spaces to a width, counted in characters. A text that is longer stays as it is.
-/

namespace Multilink.Columns

/-- The spaces that are missing to a width. -/
def gap (width : Nat) (s : String) : String :=
  String.ofList (List.replicate (width - s.length) ' ')

/-- The text at the left of a column. -/
def left (width : Nat) (s : String) : String :=
  s ++ gap width s

/-- The text at the right of a column. -/
def right (width : Nat) (s : String) : String :=
  gap width s ++ s

end Multilink.Columns
