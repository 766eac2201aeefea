import Multilink.Command.Outcome
import Multilink.Frame
import Multilink.Text.Blank
/-!
# Frames on the command line

A frame is shown as hexadecimal text, and what it says as lines.
-/

namespace Multilink.Frames

/-- The hexadecimal text of a frame with some texts as fields. -/
def encode (kind : Kind) (conversation : UInt16) (fields : List String) : String :=
  Bytes.toHex (Frame.build kind conversation (Fields.join (fields.map Fields.text)))

/-- A field as text, or in hexadecimal if it is none. -/
def fieldText (field : Bytes) : String :=
  match Bytes.text? field with
  | some s => Quoted.text s
  | none => "0x" ++ field.toHex

/-- What is said about the checksum of a frame. -/
def checksumText (bytes : Bytes) (m : Message) : String :=
  match Frame.verify bytes with
  | .ok c => hexWord32 c ++ " (ok)"
  | .error e => hexWord32 m.checksum ++ " (" ++ e.message ++ ")"

/-- What a frame says, line by line. -/
def describe (bytes : Bytes) (m : Message) : List String :=
  ["Type:         " ++ m.kind.name,
   "Conversation: " ++ Numeral.decimal m.conversation.toNat,
   "CRC:          " ++ checksumText bytes m,
   "Fields:       " ++ Numeral.decimal m.fields.length]
    ++ m.fields.mapIdx fun i field => "  [" ++ Numeral.decimal i ++ "] " ++ fieldText field

/-- What the frame with a hexadecimal text says. Blanks around the text do not count. -/
def decode (text : String) : Except Failure (List String) := do
  let bytes ← (Bytes.ofHex (Blank.trim text)).mapError .hex
  let m ← (Frame.parse? bytes).mapError .frame
  pure (describe bytes m)

end Multilink.Frames
