import Multilink.Frame
/-!
# Errors

What can go wrong, as causes. Each cause has a label, for programs, and a wording, for people. An
error belongs to at most one of four classes: transient (worth another attempt), protocol (drop the
message), resource (tell the caller) and fatal (the component must not run).
-/

namespace Multilink

/-- Why a driver did not send a frame, or could not be polled. -/
inductive LinkError where
  /-- The device below the driver failed. -/
  | device (text : String)
  /-- The driver is closed. -/
  | closed
  /-- Nobody has this address on this medium. -/
  | unreachable (target : Address)
  /-- The medium does not carry frames of this length. -/
  | tooLarge (media : Media) (length limit : Nat)
  /-- The other end did not acknowledge the frame. -/
  | noAck (target : Address)
  /-- The driver does not speak on this medium. -/
  | unsupported (media : Media)
  /-- Anything else that a driver reports. -/
  | other (text : String)
  deriving DecidableEq, Repr

/-- The label of a link error. -/
def LinkError.label : LinkError → String
  | .device _ => "Io"
  | .closed => "Closed"
  | .unreachable _ => "Unreachable"
  | .tooLarge _ _ _ => "TooLarge"
  | .noAck _ => "NoAck"
  | .unsupported _ => "Unsupported"
  | .other _ => "Other"

/-- The wording of a link error. -/
def LinkError.message : LinkError → String
  | .device text => "I/O error: " ++ text
  | .closed => "Transport is closed"
  | .unreachable target => "Destination unreachable: " ++ target.text
  | .tooLarge media length limit =>
    "Frame too large for " ++ media.name ++ ": " ++ Numeral.decimal length ++ " > "
      ++ Numeral.decimal limit
  | .noAck target => "No acknowledgment from " ++ target.text
  | .unsupported media => "Media not supported: " ++ media.name
  | .other text => "Transport error: " ++ text

/-- Why a work queue refuses an item or cannot be built. -/
inductive QueueError where
  /-- The queue is at its capacity. -/
  | busy
  /-- The queue has been shut down. -/
  | shutDown
  /-- The lock was not free in time. -/
  | lockTimeout
  /-- The queue cannot be built from its settings. -/
  | initFail (text : String)
  deriving DecidableEq, Repr

/-- The label of a queue error. -/
def QueueError.label : QueueError → String
  | .busy => "Busy"
  | .shutDown => "ShutDown"
  | .lockTimeout => "LockTimeout"
  | .initFail _ => "InitFail"

/-- The wording of a queue error. -/
def QueueError.message : QueueError → String
  | .busy => "Work queue is full"
  | .shutDown => "Work queue is shut down"
  | .lockTimeout => "Work queue lock timeout"
  | .initFail text => "Work queue init failed: " ++ text

/-- Why an operation of the engine failed. -/
inductive Error where
  /-- The bytes are no frame, or a damaged one. -/
  | frame (e : FrameError)
  /-- A filter rejected the message. -/
  | filtered (kind : Kind)
  /-- The fields of the payload are not those that the kind asks for. -/
  | invalidPayload (text : String)
  /-- No such conversation is open, or it cannot be opened. -/
  | conversation (peer : Handle) (id : UInt16)
  /-- No known peer shares this relation. -/
  | unknownRelation (relation : UInt32)
  /-- The name or address is taken by another peer. -/
  | peerExists (text : String)
  /-- No live peer has this handle. -/
  | peerNotFound (peer : Handle)
  /-- The identity of a peer is not acceptable. -/
  | invalidPeer (text : String)
  /-- Every attempt to send failed. -/
  | sendFail (peer : Handle) (attempts : Nat)
  /-- No medium is shared with the peer that carries the frame. -/
  | noMedia (peer : Handle)
  /-- A driver failed. -/
  | link (e : LinkError)
  /-- The peer store is full. -/
  | outOfMemory (capacity : Nat)
  /-- A queue refused the message. -/
  | queue (e : QueueError)
  /-- Shared state was held for too long. -/
  | lockTimeout (text : String)
  /-- A component lacks something that it needs to start. -/
  | initFail (text : String)
  /-- A setting is not acceptable. -/
  | invalidConfig (text : String)
  deriving DecidableEq, Repr

namespace Error

/-- The label of an error. That of another module's error has the name of the module in front. -/
def label : Error → String
  | frame e => "Frame." ++ e.label
  | filtered _ => "MessageFiltered"
  | invalidPayload _ => "InvalidPayload"
  | conversation _ _ => "ConvQueueError"
  | unknownRelation _ => "UnknownRelation"
  | peerExists _ => "PeerExists"
  | peerNotFound _ => "PeerNotFound"
  | invalidPeer _ => "InvalidPeer"
  | sendFail _ _ => "SendFail"
  | noMedia _ => "NoMedia"
  | link e => "Transport." ++ e.label
  | outOfMemory _ => "OutOfMemory"
  | queue e => "Queue." ++ e.label
  | lockTimeout _ => "LockTimeout"
  | initFail _ => "InitFail"
  | invalidConfig _ => "InvalidConfig"

/-- The wording of an error. -/
def message : Error → String
  | frame e => "Frame error: " ++ e.message
  | filtered kind => "Message filtered: " ++ kind.name
  | invalidPayload text => "Invalid payload: " ++ text
  | conversation peer id =>
    "Conversation " ++ Numeral.decimal id.toNat ++ " not open for peer " ++ peer.text
  | unknownRelation relation => "Unknown relation id " ++ hexWord32 relation
  | peerExists text => "Peer already exists: " ++ text
  | peerNotFound peer => "Peer not found: " ++ peer.text
  | invalidPeer text => "Invalid peer: " ++ text
  | sendFail peer attempts =>
    "Send to peer " ++ peer.text ++ " failed after " ++ Numeral.decimal attempts ++ " attempts"
  | noMedia peer => "No common media with peer " ++ peer.text
  | link e => "Transport error: " ++ e.message
  | outOfMemory capacity => "Peer pool exhausted (capacity " ++ Numeral.decimal capacity ++ ")"
  | queue e => "Queue error: " ++ e.message
  | lockTimeout text => "Lock timeout: " ++ text
  | initFail text => "Initialization failed: " ++ text
  | invalidConfig text => "Invalid configuration: " ++ text

/-- Is another attempt worth while? -/
def isTransient : Error → Bool
  | sendFail _ _ | link _ | frame (.checksumMismatch _ _) => true
  | _ => false

/-- Was the message malformed or unwanted, and is to be dropped? -/
def isProtocol : Error → Bool
  | frame (.tooShort _ _) | frame (.unknownKind _) => true
  | filtered _ | invalidPayload _ | conversation _ _ | unknownRelation _ => true
  | _ => false

/-- Did something run out that the caller must hear of? -/
def isResource : Error → Bool
  | outOfMemory _ | lockTimeout _ => true
  | queue .busy | queue .shutDown | queue .lockTimeout => true
  | _ => false

/-- Must the component not run? -/
def isFatal : Error → Bool
  | initFail _ | invalidConfig _ | queue (.initFail _) => true
  | _ => false

end Error

/-- Why something is not built. -/
inductive BuildFailure where
  /-- A part refuses what it is to be built from. -/
  | refused (e : Error)
  /-- The memory that a part needs cannot be allocated. The build does not return then. -/
  | panicked
  deriving DecidableEq, Repr

end Multilink
