import Multilink.Text.CharClass
/-!
# Blanks

The characters with the Unicode property White_Space, and texts without those around them.
-/

namespace Multilink.Blank

/-- The characters with the property White_Space. -/
def blanks : CharClass :=
  [(0x9, 0xD), (0x20, 0x20), (0x85, 0x85), (0xA0, 0xA0), (0x1680, 0x1680), (0x2000, 0x200A),
    (0x2028, 0x2029), (0x202F, 0x202F), (0x205F, 0x205F), (0x3000, 0x3000)]

/-- The text without the blanks at its front. -/
def trimStart (cs : List Char) : List Char :=
  cs.dropWhile blanks.has

/-- The text without the blanks around it. -/
def trim (s : String) : String :=
  String.ofList (trimStart (trimStart s.toList).reverse).reverse

end Multilink.Blank
