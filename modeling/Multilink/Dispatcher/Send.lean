import Multilink.Dispatcher.Basic
/-!
# Sending

A message is tried as often as the wiring allows. Before each attempt the media shared with the peer
are scored anew, so that a failure steers the next attempt away from a bad link. Every outcome is
noted against the medium that was tried.
-/

namespace Multilink.Dispatcher

variable {W : Type} (w : Wiring W)

/-- Notes a frame that was sent, and the speed that its driver measured. -/
def noteSent (driver : Driver W) (peer : Handle) (target : Address) (m : Media) :
    Act (Dispatcher W) Unit := do
  onPeers (PeerStore.recordSend peer m true)
  let d ← Act.get
  match driver.speed? target d.world with
  | some speed => onPeers (PeerStore.recordSpeed peer m speed)
  | none => pure ()
  count fun c => { c with sent := c.sent + 1 }

/-- Notes an attempt that failed. -/
def noteFailed (peer : Handle) (m : Media) : Act (Dispatcher W) Unit := do
  count fun c => { c with sendFailures := c.sendFailures + 1 }
  onPeers (PeerStore.recordSend peer m false)

/-- Tries to send a frame, so many times at most, on the media in `usable`. -/
def trySend (peer : Handle) (bytes : Bytes) (usable : MediaSet) : Nat → Act (Dispatcher W) Media
  | 0 => Act.fail (.sendFail peer w.attempts)
  | attempts + 1 => do
    let (media, target) ← onPeers (PeerStore.select w.profiles (← now) peer bytes.length usable)
    match media with
    | none => Act.fail (.noMedia peer)
    | some m =>
      let d ← Act.get
      match w.carrier? m bytes.length d.world with
      | none => Act.fail (.noMedia peer)
      | some driver =>
        match ← transmit driver target m bytes with
        | .ok () =>
          noteSent driver peer target m
          pure m
        | .error _ =>
          noteFailed peer m
          trySend peer bytes usable attempts

/-- Sends a frame to a peer, and returns the medium it went on. -/
def sendMessage (peer : Handle) (bytes : Bytes) : Act (Dispatcher W) Media := do
  let d ← Act.get
  trySend w peer bytes (w.usable bytes.length d.world) w.attempts

/-- Frames a message and sends it to a peer. -/
def send (peer : Handle) (kind : Kind) (conversation : UInt16) (payload : Bytes) :
    Act (Dispatcher W) Media :=
  sendMessage w peer (Frame.build kind conversation payload)

/-- Ends with an outcome, its result forgotten. -/
def conclude {α : Type} (r : Except Error α) : Act (Dispatcher W) Unit :=
  Act.ofExcept (r.map fun _ => ())

/-- Opens a conversation and sends its first message. If that fails the conversation is closed
again. -/
def startConversation (peer : Handle) (kind : Kind) (reason : String) (payload : Bytes) :
    Act (Dispatcher W) UInt16 := do
  let id ← onConversations (Tracker.open peer reason .ours)
  match ← Act.attempt (send w peer kind id payload) with
  | .ok _ => pure id
  | .error e =>
    let _ ← Act.attempt (onConversations (Tracker.closeOurs peer id))
    Act.fail e

/-- Answers a message on its conversation. Answering a request ends the conversation that the peer
opened, whether or not the answer could be sent. -/
def reply (m : Message) (payload : Bytes) : Act (Dispatcher W) Unit := do
  match m.peer with
  | none => Act.fail (.invalidPayload "work item has no sender")
  | some peer =>
    let sent ← Act.attempt (send w peer .reply m.conversation payload)
    if m.kind = .request then
      let _ ← Act.attempt (onConversations (Tracker.closeTheirs peer m.conversation))
    conclude sent

/-- The tag of a greeting. -/
def hello : String := "HI"

/-- The tag of the answer to a greeting. -/
def helloAnswer : String := "HIR"

/-- Greets a peer. -/
def handshake (peer : Handle) : Act (Dispatcher W) Unit := do
  let _ ← send w peer .handshake 0 (w.helloPayload hello)

/-- Asks a peer when it listens next. -/
def sendWhen (peer : Handle) : Act (Dispatcher W) Unit := do
  let _ ← send w peer .orchestration 0 (Fields.join [Fields.text Announcement.question])

/-- Adds a peer from the configuration, without greeting it. -/
def provision (name : String) (address : Address) (media : MediaSet) :
    Act (Dispatcher W) Handle := do
  let handle ← onPeers (PeerStore.add name address media)
  onPeers (PeerStore.markProvisioned handle)
  pure handle

/-- Forgets a peer and closes everything open with it. -/
def removePeer (peer : Handle) : Act (Dispatcher W) Unit := do
  let _ ← onPeers (PeerStore.remove peer)
  let _ ← onConversations (Tracker.closeAll peer)

/-- What is known about the next window of a peer; nothing while the peers cannot be looked at. -/
def availability? (peer : Handle) (d : Dispatcher W) : Option Availability :=
  match (PeerStore.snapshot peer).run d.peers with
  | (.ok p, _) => p.availability
  | (.error _, _) => none

end Multilink.Dispatcher
