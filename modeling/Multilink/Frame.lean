import Multilink.Address
import Multilink.Checksum
import Multilink.Fields
import Multilink.Handle
import Multilink.Kind
import Multilink.Media
/-!
# Frames

Every message travels as one frame, whatever the medium: a checksum (4 bytes), the kind (1), the
conversation (2) and the payload, words with the high byte first. The checksum covers all that
follows it.

`Frame.parse?` reads a frame into a message without looking at the checksum, and ends the payload
with a null byte if it does not have one; `Frame.verify` looks at the checksum.
-/

namespace Multilink

/-- Why bytes are no frame, or a damaged one. -/
inductive FrameError where
  /-- Fewer bytes than the part before the payload has. -/
  | tooShort (expected actual : Nat)
  /-- No kind has this byte. -/
  | unknownKind (byte : UInt8)
  /-- The checksum in the frame is not that of its contents. -/
  | checksumMismatch (expected actual : UInt32)
  deriving DecidableEq, Repr

/-- Two uppercase hexadecimal digits. -/
def upperHexByte (b : UInt8) : String :=
  String.ofList ((Bytes.hexPair b.toNat).map Char.toUpper)

/-- The label of a frame error. -/
def FrameError.label : FrameError → String
  | .tooShort _ _ => "TooShort"
  | .unknownKind _ => "UnknownWorkType"
  | .checksumMismatch _ _ => "CrcMismatch"

/-- The wording of a frame error. -/
def FrameError.message : FrameError → String
  | .tooShort expected actual =>
    "frame too short: expected at least " ++ Numeral.decimal expected ++ ", got "
      ++ Numeral.decimal actual
  | .unknownKind b => "unknown work type: 0x" ++ upperHexByte b
  | .checksumMismatch expected actual =>
    "CRC mismatch: frame says " ++ hexWord32 expected ++ ", computed " ++ hexWord32 actual

/-- A message as queues and handlers hold it. -/
structure Message where
  kind : Kind
  /-- The conversation that it belongs to. -/
  conversation : UInt16
  /-- The checksum, as received or as computed. -/
  checksum : UInt32
  /-- The payload with its null bytes. -/
  payload : Bytes
  /-- The medium it arrived on. -/
  media : Option Media := none
  /-- The peer that sent it. -/
  peer : Option Handle := none
  deriving DecidableEq, Repr

namespace Message

/-- Where the fields stand in the payload. -/
def spans (m : Message) : List Fields.Span :=
  Fields.spans m.payload

/-- The fields in order. -/
def fields (m : Message) : List Bytes :=
  Fields.split m.payload

/-- The field at an index. -/
def field? (m : Message) (i : Nat) : Option Bytes :=
  m.fields[i]?

/-- The field at an index as text; none if there is no such field or it is not UTF-8. -/
def fieldText? (m : Message) (i : Nat) : Option String :=
  (m.field? i).bind Bytes.text?

end Message

/-- The bytes before the payload: checksum, kind and conversation. -/
def preambleLength : Nat := 7

namespace Frame

/-- All of a frame that its checksum covers. -/
def covered (kind : Kind) (conversation : UInt16) (payload : Bytes) : Bytes :=
  kind.byte :: (Bytes.ofWord16 conversation ++ payload)

/-- The frame of a message. -/
def build (kind : Kind) (conversation : UInt16) (payload : Bytes) : Bytes :=
  let rest := covered kind conversation payload
  Bytes.ofWord32 (checksum rest) ++ rest

/-- Reads a frame. Its checksum is kept but not checked. -/
def parse? : Bytes → Except FrameError Message
  | c0 :: c1 :: c2 :: c3 :: k :: v0 :: v1 :: payload =>
    match Kind.ofByte? k with
    | none => .error (.unknownKind k)
    | some kind =>
      .ok
        { kind
          conversation := Bytes.word16 v0 v1
          checksum := Bytes.word32 c0 c1 c2 c3
          payload := Fields.terminate payload }
  | short => .error (.tooShort preambleLength short.length)

/-- Checks the checksum of a frame, and returns it. -/
def verify : Bytes → Except FrameError UInt32
  | c0 :: c1 :: c2 :: c3 :: k :: v0 :: v1 :: payload =>
    let expected := Bytes.word32 c0 c1 c2 c3
    let actual := checksum (k :: v0 :: v1 :: payload)
    if expected = actual then .ok actual else .error (.checksumMismatch expected actual)
  | short => .error (.tooShort preambleLength short.length)

end Frame

namespace Message

/-- A message to be sent, with the checksum that its frame carries. -/
def outbound (kind : Kind) (conversation : UInt16) (payload : Bytes) : Message :=
  { kind
    conversation
    checksum := Multilink.checksum (Frame.covered kind conversation payload)
    payload }

/-- The frame that carries this message. -/
def toFrame (m : Message) : Bytes :=
  Frame.build m.kind m.conversation m.payload

end Message

/-- A frame as a driver hands it up. -/
structure Inbound where
  /-- Who sent it, as far as the driver can tell. -/
  sender : Sender
  /-- The medium it arrived on. -/
  media : Media
  /-- The frame. -/
  bytes : Bytes
  /-- Does the driver leave the checksum to be checked by the receiver? -/
  checked : Bool := true
  deriving DecidableEq, Repr

end Multilink
