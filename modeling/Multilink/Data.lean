/-!
# Structured data

The values that configurations are written in, whatever their notation, and how settings are read
from them. Reading asks for exact kinds: a number never stands for a text, nor a null for anything.
-/

namespace Multilink

/-- A value of a configuration. -/
inductive Data where
  /-- No value. -/
  | null
  /-- A truth value. -/
  | bool (b : Bool)
  | integer (n : Int)
  /-- A number written with a point or an exponent; no setting is one, and its value is not kept. -/
  | real
  /-- A date or a time; no setting is one either. -/
  | moment
  | text (s : String)
  /-- Values in order. -/
  | list (items : List Data)
  /-- Values under keys. -/
  | record (entries : List (String × Data))
  deriving Inhabited, Repr

namespace Data

variable {α : Type}

/-- The truth value, if this is one. -/
def bool? : Data → Option Bool
  | bool b => some b
  | _ => none

/-- The text, if this is one. -/
def text? : Data → Option String
  | text s => some s
  | _ => none

/-- The natural number, if this is one and at most `limit`. -/
def natural? (limit : Nat) : Data → Option Nat
  | integer (.ofNat n) => if n ≤ limit then some n else none
  | _ => none

/-- A natural number of 64 bits. -/
def word64? : Data → Option Nat :=
  natural? 0xFFFFFFFFFFFFFFFF

/-- A natural number of 32 bits. -/
def word32? : Data → Option Nat :=
  natural? 0xFFFFFFFF

/-- Is this an integer of 64 bits, one of them for the sign? -/
def isWord64 (n : Int) : Bool :=
  -0x8000000000000000 ≤ n && n < 0x8000000000000000

/-- The items of a list, all read in the same way. -/
def list? (read : Data → Option α) : Data → Option (List α)
  | list items => items.mapM read
  | _ => none

/-- The entries of a section with these keys: those of a record, or the items of a list in the order
of the keys, if there are not too many. A moment counts as a section without entries. -/
def section? (keys : List String) : Data → Option (List (String × Data))
  | record entries => some entries
  | list items => if items.length ≤ keys.length then some (keys.zip items) else none
  | moment => some []
  | _ => none

/-- The value of an entry. An entry that is missing has the default; one that is there must be
readable. -/
def entry? (entries : List (String × Data)) (key : String) (read : Data → Option α) (default : α) :
    Option α :=
  match entries.lookup key with
  | some d => read d
  | none => some default

end Data

end Multilink
