/-!
# Classes of characters

A class is given by ranges of code points, both ends included. `Text.Blank` and `Text.Hidden` hold
the classes that texts are trimmed and quoted by.
-/

namespace Multilink

/-- A class of characters, as ranges of code points. -/
abbrev CharClass := List (Nat × Nat)

namespace CharClass

/-- Is this character in the class? -/
def has (k : CharClass) (c : Char) : Bool :=
  k.any fun r => r.1 ≤ c.toNat && c.toNat ≤ r.2

end CharClass

end Multilink
