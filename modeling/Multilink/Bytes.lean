/-!
# Byte strings

Frames, payloads and fields are lists of bytes. This module holds their readings: hexadecimal
text, big-endian words and UTF-8 text.
-/

namespace Multilink

/-- A byte string. -/
abbrev Bytes := List UInt8

namespace Bytes

/-! ## Hexadecimal text -/

/-- The lowercase hexadecimal digits of the low eight bits of `n`, high half first. -/
def hexPair (n : Nat) : List Char :=
  [Nat.digitChar (n / 16 % 16), Nat.digitChar (n % 16)]

/-- Two lowercase hexadecimal digits a byte. -/
def toHex (bs : Bytes) : String :=
  String.ofList (bs.flatMap fun b => hexPair b.toNat)

/-- Why a text is not the hexadecimal form of a byte string. -/
inductive HexError where
  /-- The number of bytes in the text is odd. -/
  | oddLength
  /-- The byte at this position is no hexadecimal digit. -/
  | notDigit (found : UInt8) (position : Nat)
  deriving DecidableEq, Repr

/-- The value of an ASCII hexadecimal digit of either case. -/
def hexValue? (b : UInt8) : Option Nat :=
  if 48 ≤ b.toNat ∧ b.toNat ≤ 57 then some (b.toNat - 48)
  else if 97 ≤ b.toNat ∧ b.toNat ≤ 102 then some (b.toNat - 87)
  else if 65 ≤ b.toNat ∧ b.toNat ≤ 70 then some (b.toNat - 55)
  else none

/-- Reads pairs of digits, the first of which stands at `position`. -/
def ofHexPairs (position : Nat) : List UInt8 → Except HexError Bytes
  | [] => .ok []
  | [_] => .error .oddLength
  | high :: low :: rest =>
    match hexValue? high, hexValue? low with
    | none, _ => .error (.notDigit high position)
    | _, none => .error (.notDigit low (position + 1))
    | some h, some l => (ofHexPairs (position + 2) rest).map (UInt8.ofNat (16 * h + l) :: ·)

/-- The UTF-8 bytes of a text. -/
def ofText (s : String) : Bytes :=
  s.toUTF8.toList

/-- Reads hexadecimal text. An odd length is reported before any bad digit. -/
def ofHex (s : String) : Except HexError Bytes :=
  let digits := ofText s
  if digits.length % 2 = 1 then .error .oddLength else ofHexPairs 0 digits

/-! ## Text -/

/-- The text that these bytes are the UTF-8 form of, if there is one. -/
def text? (bs : Bytes) : Option String :=
  String.fromUTF8? ⟨bs.toArray⟩

/-! ## Big-endian words -/

/-- The two bytes of a 16-bit word, high byte first. -/
def ofWord16 (w : UInt16) : Bytes :=
  [(w >>> 8).toUInt8, w.toUInt8]

/-- The four bytes of a 32-bit word, high byte first. -/
def ofWord32 (w : UInt32) : Bytes :=
  [(w >>> 24).toUInt8, (w >>> 16).toUInt8, (w >>> 8).toUInt8, w.toUInt8]

/-- The 16-bit word with these bytes, high byte first. -/
def word16 (a b : UInt8) : UInt16 :=
  (a.toUInt16 <<< 8) ||| b.toUInt16

/-- The 32-bit word with these bytes, high byte first. -/
def word32 (a b c d : UInt8) : UInt32 :=
  (a.toUInt32 <<< 24) ||| (b.toUInt32 <<< 16) ||| (c.toUInt32 <<< 8) ||| d.toUInt32

end Bytes

/-- The eight lowercase hexadecimal digits of a 32-bit word. -/
def hexWord32 (w : UInt32) : String :=
  Bytes.toHex (Bytes.ofWord32 w)

end Multilink
