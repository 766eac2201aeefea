import Multilink.Bytes
import Multilink.Text.Numeral
/-!
# Payload fields

A payload is a row of fields, each ended by a null byte. `split` cuts a payload at its null bytes,
so that the last field is what stands after the last of them; `join` writes fields with a null byte
after each.
-/

namespace Multilink.Fields

/-- The byte that ends a field. -/
def terminator : UInt8 := 0

/-- Where a field stands in its payload: from `start` up to but not including `stop`. -/
structure Span where
  /-- The position of the first byte. -/
  start : Nat
  /-- The position behind the last byte. -/
  stop : Nat
  deriving DecidableEq, Repr

/-- The bytes of a payload within a span. -/
def Span.of (s : Span) (payload : Bytes) : Bytes :=
  (payload.drop s.start).take (s.stop - s.start)

/-- The spans of the fields in the rest of a payload, where the current field began at `start` and
the rest begins at `here`. -/
def spansFrom (start here : Nat) : Bytes → List Span
  | [] => [⟨start, here⟩]
  | b :: rest =>
    if b = terminator then ⟨start, here⟩ :: spansFrom (here + 1) (here + 1) rest
    else spansFrom start (here + 1) rest

/-- The spans of all fields of a payload. -/
def spans (payload : Bytes) : List Span :=
  spansFrom 0 0 payload

/-- The fields of a payload, without their null bytes. -/
def split (payload : Bytes) : List Bytes :=
  (spans payload).map (·.of payload)

/-- The payload with these fields, a null byte after each. -/
def join (fields : List Bytes) : Bytes :=
  fields.flatMap (· ++ [terminator])

/-- A text as a field. -/
def text (s : String) : Bytes :=
  Bytes.ofText s

/-- A number as a field, in decimal. -/
def number (n : Nat) : Bytes :=
  Bytes.ofText (Numeral.decimal n)

/-- The bytes with the last one replaced by a null byte. -/
def terminate : Bytes → Bytes
  | [] => []
  | b :: rest => (b :: rest).dropLast ++ [terminator]

end Multilink.Fields
