/-!
# Scanning texts

A scanner reads something from the front of a text and leaves the rest, or fails. A scanner that
fails leaves nothing behind, so another can be tried in its place.
-/

namespace Multilink

/-- A reader of the front of a text. -/
abbrev Scan := StateT (List Char) Option

namespace Scan

variable {α : Type}

/-- One character of a kind. -/
def one (kind : Char → Bool) : Scan Char
  | [] => none
  | c :: rest => if kind c then some (c, rest) else none

/-- This character. -/
def exactly (c : Char) : Scan Unit :=
  (fun _ => ()) <$> one (· == c)

/-- These characters in turn. -/
def word : List Char → Scan Unit
  | [] => pure ()
  | c :: rest => do
    exactly c
    word rest

/-- The characters of a kind, as many as there are. -/
def run (kind : Char → Bool) : Scan (List Char) := fun cs =>
  some (cs.takeWhile kind, cs.dropWhile kind)

/-- The characters of a kind, at least one. -/
def run1 (kind : Char → Bool) : Scan (List Char) := do
  let first ← one kind
  let others ← run kind
  pure (first :: others)

/-- What the scanner reads, if it reads something. -/
def optional (x : Scan α) : Scan (Option α) :=
  (some <$> x) <|> pure none

/-- What the scanner reads as often as it can, but at most so often. -/
def manyUpTo (x : Scan α) : Nat → Scan (List α)
  | 0 => pure []
  | n + 1 => do
    match ← optional x with
    | none => pure []
    | some a => do
      let others ← manyUpTo x n
      pure (a :: others)

/-- What the scanner reads as often as it can. Each time it has to read a character, so the length
of the text bounds the count. -/
def many (x : Scan α) : Scan (List α) := fun cs =>
  manyUpTo x cs.length cs

/-- What the scanner reads between separators, at least once. A separator with nothing behind it is
left. -/
def separated1 (separator : Scan Unit) (x : Scan α) : Scan (List α) := do
  let first ← x
  let others ← many do
    separator
    x
  pure (first :: others)

/-- What the scanner reads between separators. -/
def separated (separator : Scan Unit) (x : Scan α) : Scan (List α) :=
  separated1 separator x <|> pure []

/-- Digits, with single underscores between them; the underscores are dropped. -/
def digits (isDigit : Char → Bool) : Scan (List Char) := do
  let first ← run1 isDigit
  let others ← many do
    exactly '_'
    run1 isDigit
  pure (first ++ others.flatten)

/-- So many characters of a kind. -/
def count (kind : Char → Bool) : Nat → Scan (List Char)
  | 0 => pure []
  | n + 1 => do
    let first ← one kind
    let others ← count kind n
    pure (first :: others)

/-- The end of the text. -/
def finish : Scan Unit
  | [] => some ((), [])
  | _ :: _ => none

/-- What the scanner makes of a whole text. -/
def all? (x : Scan α) (cs : List Char) : Option α :=
  match x cs with
  | some (a, []) => some a
  | _ => none

end Scan

end Multilink
