import Multilink.Media
/-!
# Kinds of messages

The seven kinds of messages, by their byte on the wire and by their name.
-/

namespace Multilink

/-- The kind of a message. -/
inductive Kind where
  /-- Exchange of identity and media. -/
  | handshake
  /-- A request that expects a reply. -/
  | request
  /-- The reply to a request, or a receipt. -/
  | reply
  /-- Data that expects nothing. -/
  | data
  /-- Handled at once and receipted at once. -/
  | priority
  /-- Agreement on awake windows. -/
  | orchestration
  /-- Keep-alive. -/
  | qos
  deriving DecidableEq, Repr

namespace Kind

/-- Every kind, in the order of their bytes. -/
def all : List Kind :=
  [handshake, request, reply, data, priority, orchestration, qos]

/-- The byte on the wire. -/
def byte : Kind → UInt8
  | handshake => 0
  | request => 1
  | reply => 2
  | data => 3
  | priority => 4
  | orchestration => 5
  | qos => 6

/-- The name in texts. -/
def name : Kind → String
  | handshake => "handshake"
  | request => "request"
  | reply => "reply"
  | data => "data"
  | priority => "priority"
  | orchestration => "orchestration"
  | qos => "qos"

/-- May an application install a filter for this kind? These are the kinds that reach it. -/
def filterable : Kind → Bool
  | request | reply | data => true
  | _ => false

/-- The kind with this byte. -/
def ofByte? (b : UInt8) : Option Kind :=
  all.find? (·.byte == b)

/-- The kind with this name, in any case. -/
def ofName? (s : String) : Option Kind :=
  all.find? fun k => sameIgnoringCase k.name s

/-- What is reported for a name that no kind has. -/
def unknownName (s : String) : String :=
  "unknown work type: " ++ s

end Kind

end Multilink
