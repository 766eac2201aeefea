import Multilink.Bytes
import Multilink.Text.Numeral
import Multilink.Text.Parts
/-!
# Hardware addresses

Six bytes that name a node on its media. As text they are written in hexadecimal with colons
between; when read, each of the six parts is a numeral of its own and dashes also separate.
-/

namespace Multilink

/-- A hardware address. -/
structure Address where
  /-- The first byte, which decides the order of two addresses. -/
  b0 : UInt8
  /-- The second byte. -/
  b1 : UInt8
  /-- The third byte. -/
  b2 : UInt8
  /-- The fourth byte. -/
  b3 : UInt8
  /-- The fifth byte. -/
  b4 : UInt8
  /-- The last byte. -/
  b5 : UInt8
  deriving DecidableEq, Repr

namespace Address

/-- The six bytes in order. -/
def bytes (a : Address) : Bytes :=
  [a.b0, a.b1, a.b2, a.b3, a.b4, a.b5]

/-- The address with these bytes, if there are six. -/
def ofBytes? : Bytes → Option Address
  | [b0, b1, b2, b3, b4, b5] => some ⟨b0, b1, b2, b3, b4, b5⟩
  | _ => none

/-- The address that every node answers to. -/
def broadcast : Address := ⟨0xFF, 0xFF, 0xFF, 0xFF, 0xFF, 0xFF⟩

/-- The all-zero address. -/
def zero : Address := ⟨0, 0, 0, 0, 0, 0⟩

/-- The address as one number; addresses are ordered by it. -/
def toNat (a : Address) : Nat :=
  a.bytes.foldl (fun n b => n * 256 + b.toNat) 0

/-- Two lowercase digits a byte, colons between. -/
def text (a : Address) : String :=
  ":".intercalate (a.bytes.map fun b => Bytes.toHex [b])

/-- Does this character stand between two parts of an address? -/
def isSeparator (c : Char) : Bool :=
  c == ':' || c == '-'

/-- One part: a hexadecimal numeral of at most one byte. -/
def readPart? (part : List Char) : Option UInt8 :=
  (Numeral.read? 16 255 (String.ofList part)).map UInt8.ofNat

/-- Reads an address: six parts, each a hexadecimal numeral of at most one byte. -/
def read? (s : String) : Option Address :=
  match Parts.split isSeparator s.toList with
  | [p0, p1, p2, p3, p4, p5] => do
    let b0 ← readPart? p0
    let b1 ← readPart? p1
    let b2 ← readPart? p2
    let b3 ← readPart? p3
    let b4 ← readPart? p4
    let b5 ← readPart? p5
    pure ⟨b0, b1, b2, b3, b4, b5⟩
  | _ => none

/-- What is reported for a text that is no address. -/
def malformed (s : String) : String :=
  "invalid hardware address: " ++ s

end Address

/-- How a driver names the sender of a frame: by its address or, on media with little room, by the
number that the two nodes share. -/
inductive Sender where
  /-- The full address. -/
  | address (a : Address)
  /-- The relation of the two nodes. -/
  | relation (r : UInt32)
  deriving DecidableEq, Repr

/-- The sender as text. -/
def Sender.text : Sender → String
  | .address a => a.text
  | .relation r => "rel:" ++ hexWord32 r

end Multilink
