import Multilink.Dispatcher.Send
/-!
# Receiving

A frame is read, checked if its driver asks for it, attributed to a peer, and handled by its kind:

* a handshake tells the identity of the peer, and a greeting is answered;
* a request opens a conversation of the peer, a reply closes the one it answers, and both go to the
  application queue, as data does, unless a filter rejects them;
* a priority message is receipted and handled at once;
* a question for the next window is answered, and an announced window is noted;
* a keep-alive is taken as it is.

A sender that is not known by its address is learned and greeted. A damaged frame changes nothing
but counters, and counts against the link of its sender.
-/

namespace Multilink.Dispatcher

variable {W : Type} (w : Wiring W)

/-- Looks up the peer that a sender stands for. -/
def findSender? : Sender → Act (Dispatcher W) (Option Handle)
  | .relation r => onPeers (PeerStore.findRelation? r)
  | .address a => onPeers (PeerStore.findAddress? a)

/-- Refuses a damaged frame. The failure counts against the link of the sender, if it is known. -/
def checkIntegrity (f : Inbound) : Act (Dispatcher W) Unit := do
  match Frame.verify f.bytes with
  | .ok _ => pure ()
  | .error e =>
    match ← findSender? f.sender with
    | some peer => onPeers (PeerStore.recordReceive peer f.media false)
    | none => pure ()
    count fun c => { c with dropped := c.dropped + 1 }
    Act.fail (.frame e)

/-- The name given to a peer that is not known yet: the last three bytes of its address. -/
def shortName (a : Address) : String :=
  "peer-" ++ Bytes.toHex (a.bytes.drop 3)

/-- The name given if the short one is taken: the whole address. -/
def fullName (a : Address) : String :=
  "peer-" ++ Bytes.toHex a.bytes

/-- Adds the peer at an address under a name made from the address. -/
def learn (a : Address) (m : Media) : Act (Dispatcher W) Handle := do
  match ← Act.attempt (onPeers (PeerStore.add (shortName a) a (.singleton m))) with
  | .ok handle => pure handle
  | .error (.peerExists text) =>
    match ← onPeers (PeerStore.findAddress? a) with
    | none => onPeers (PeerStore.add (fullName a) a (.singleton m))
    | some _ => Act.fail (.peerExists text)
  | .error e => Act.fail e

/-- The peer that sent a frame. One that is new is learned, and greeted unless it greets itself. -/
def resolveSender (sender : Sender) (m : Media) (kind : Kind) : Act (Dispatcher W) Handle := do
  match sender with
  | .relation r =>
    match ← onPeers (PeerStore.findRelation? r) with
    | some handle => pure handle
    | none => Act.fail (.unknownRelation r)
  | .address a =>
    match ← onPeers (PeerStore.findAddress? a) with
    | some handle => pure handle
    | none =>
      let handle ← learn a m
      if kind ≠ .handshake then
        let _ ← Act.attempt (handshake w handle)
      pure handle

/-- Lets the filter for its kind reject a message. -/
def applyFilter (m : Message) : Act (Dispatcher W) Unit := do
  if w.rejects m then
    count fun c => { c with filtered := c.filtered + 1 }
    Act.fail (.filtered m.kind)

/-- Hands a message to the application queue. -/
def enqueue (m : Message) : Act (Dispatcher W) Unit := fun d =>
  match d.queue.enqueue m with
  | (.ok (), queue) =>
    (.ok (), { d with queue, counters := { d.counters with queued := d.counters.queued + 1 } })
  | (.error e, queue) => (.error (.queue e), { d with queue })

/-- Takes a request in: the peer has opened a conversation. If the queue refuses it, nobody will
answer, and the conversation is closed again. -/
def takeRequest (peer : Handle) (m : Message) : Act (Dispatcher W) Unit := do
  applyFilter w m
  let opened ← Act.attempt
    (onConversations (Tracker.open peer "request" (.theirs m.conversation)))
  let queued ← Act.attempt (enqueue m)
  match queued, opened with
  | .error _, .ok _ =>
    let _ ← Act.attempt (onConversations (Tracker.closeTheirs peer m.conversation))
  | _, _ => pure ()
  conclude queued

/-- Takes a reply in: it closes the conversation of this node that it answers, if there is one. -/
def takeReply (peer : Handle) (m : Message) : Act (Dispatcher W) Unit := do
  applyFilter w m
  let _ ← Act.attempt (onConversations (Tracker.closeOurs peer m.conversation))
  enqueue m

/-- Takes data in. -/
def takeData (m : Message) : Act (Dispatcher W) Unit := do
  applyFilter w m
  enqueue m

/-- The media that a handshake announces: a set as a decimal, with the medium it arrived on. -/
def announcedMedia (m : Message) : MediaSet :=
  let told := (((m.fieldText? 2).bind Numeral.readByte?).map MediaSet.ofBits).getD .empty
  match m.media with
  | some arrived => told.insert arrived
  | none => told

/-- Takes a handshake in: learns the identity of the peer, and answers a greeting. -/
def takeHandshake (peer : Handle) (m : Message) : Act (Dispatcher W) Unit := do
  let tag := m.fieldText? 0
  if tag ≠ some hello ∧ tag ≠ some helloAnswer then
    Act.fail (.invalidPayload "handshake without HI/HIR tag")
  else
    let name := (m.fieldText? 1).filter (· ≠ "")
    let version := ((m.fieldText? 3).bind Version.read?).getD {}
    onPeers (PeerStore.updateIdentity peer name (announcedMedia m) version)
    if tag = some hello then
      let _ ← send w peer .handshake m.conversation (w.helloPayload helloAnswer)

/-- The payload of a receipt: the checksum of the message. -/
def receipt (m : Message) : Bytes :=
  Fields.join [Bytes.ofWord32 m.checksum]

/-- Takes a priority message in: sends a receipt, then lets the handler act, whether or not the
receipt could be sent. -/
def takePriority (peer : Handle) (m : Message) : Act (Dispatcher W) Unit := do
  count fun c => { c with priority := c.priority + 1 }
  let sent ← Act.attempt (send w peer .reply m.conversation (receipt m))
  match w.onPriority with
  | some handle => Act.modify fun d => { d with world := handle m d.world }
  | none => pure ()
  conclude sent

/-- Takes an orchestration message in: answers the question for the next window, or notes an
announced one. -/
def takeOrchestration (peer : Handle) (m : Message) : Act (Dispatcher W) Unit := do
  match m.fieldText? 0 with
  | none => Act.fail (.invalidPayload "orchestration payload is not text")
  | some text =>
    if text = Announcement.question then
      let d ← Act.get
      let (wait, awake) := d.orchestrator.nextWindow
      let _ ← send w peer .orchestration m.conversation
        (Fields.join [Fields.text (Announcement.text wait awake)])
    else
      match Announcement.read? text with
      | none => Act.fail (.invalidPayload "orchestration payload is neither WHEN nor NEXT")
      | some (wait, awake) =>
        let now ← now
        onPeers (PeerStore.setAvailability peer ⟨now.plus wait, awake, now⟩)

/-- Handles a message by its kind. -/
def take (peer : Handle) (m : Message) : Act (Dispatcher W) Unit :=
  match m.kind with
  | .handshake => takeHandshake w peer m
  | .request => takeRequest w peer m
  | .reply => takeReply w peer m
  | .data => takeData w m
  | .priority => takePriority w peer m
  | .orchestration => takeOrchestration w peer m
  | .qos => pure ()

/-- Reads, checks, attributes and handles a frame. -/
def route (f : Inbound) : Act (Dispatcher W) Unit := do
  let m ← Act.ofExcept ((Frame.parse? f.bytes).mapError .frame)
  if f.checked then
    checkIntegrity f
  let peer ← resolveSender w f.sender f.media m.kind
  onPeers (PeerStore.recordReceive peer f.media true)
  take w peer { m with media := some f.media, peer := some peer }

/-- Handles a frame from a driver, and counts it. -/
def receive (f : Inbound) : Act (Dispatcher W) Unit := do
  count fun c => { c with received := c.received + 1 }
  match ← Act.attempt (route w f) with
  | .ok () => pure ()
  | .error e =>
    if e.isProtocol then
      count fun c => { c with dropped := c.dropped + 1 }
    Act.fail e

end Multilink.Dispatcher
