/-!
# Parts of a text

Cutting a text at every separator. There is always one more part than there are separators, so the
empty text has one part, which is empty.
-/

namespace Multilink.Parts

/-- The parts of a text between its separators. -/
def split (isSeparator : Char → Bool) : List Char → List (List Char)
  | [] => [[]]
  | c :: rest =>
    if isSeparator c then [] :: split isSeparator rest
    else
      match split isSeparator rest with
      | [] => [[c]]
      | p :: ps => (c :: p) :: ps

end Multilink.Parts
