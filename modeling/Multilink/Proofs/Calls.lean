import Multilink.Proofs.Watching
/-!
# The calls of a dispatcher

All that an application and the drivers can call on a dispatcher, as one type, with what each call
answers.
-/

namespace Multilink.Dispatcher

open Act

variable {V W : Type}

inductive Call where
  | receive (f : Inbound)
  | send (peer : Handle) (kind : Kind) (conversation : UInt16) (payload : Bytes)
  | sendMessage (peer : Handle) (bytes : Bytes)
  | startConversation (peer : Handle) (kind : Kind) (reason : String) (payload : Bytes)
  | reply (m : Message) (payload : Bytes)
  | provision (name : String) (address : Address) (media : MediaSet)
  | removePeer (peer : Handle)
  | handshake (peer : Handle)
  | sendWhen (peer : Handle)

inductive Answer where
  | done
  | sent (m : Media)
  | opened (id : UInt16)
  | added (h : Handle)
  deriving DecidableEq, Repr

def Call.act (w : Wiring W) : Call → Act (Dispatcher W) Answer
  | .receive f => (fun _ => .done) <$> Dispatcher.receive w f
  | .send peer kind v payload => .sent <$> Dispatcher.send w peer kind v payload
  | .sendMessage peer bytes => .sent <$> Dispatcher.sendMessage w peer bytes
  | .startConversation peer kind reason payload =>
    .opened <$> Dispatcher.startConversation w peer kind reason payload
  | .reply m payload => (fun _ => .done) <$> Dispatcher.reply w m payload
  | .provision name a media => .added <$> Dispatcher.provision name a media
  | .removePeer peer => (fun _ => .done) <$> Dispatcher.removePeer peer
  | .handshake peer => (fun _ => .done) <$> Dispatcher.handshake w peer
  | .sendWhen peer => (fun _ => .done) <$> Dispatcher.sendWhen w peer

/-- The peer that a call is for: for a frame the one that its sender stands for. -/
def Call.peer? (d : Dispatcher W) : Call → Option Handle
  | .receive f => some (d.peers.attribution f.sender)
  | .reply m _ => m.peer
  | .provision _ _ _ => none
  | .send peer _ _ _ | .sendMessage peer _ | .startConversation peer _ _ _ | .removePeer peer
  | .handshake peer | .sendWhen peer => some peer

/-- No call notices that the drivers are watched. -/
theorem Call.through (w : Wiring V) (c : Call) :
    Through unwatched (c.act w.watched) (c.act w) := by
  cases c with
  | receive f => exact (through_receive w f).map _
  | send peer kind v payload => exact (through_send w peer kind v payload).map _
  | sendMessage peer bytes => exact (through_sendMessage w peer bytes).map _
  | startConversation peer kind reason payload =>
    exact (through_startConversation w peer kind reason payload).map _
  | reply m payload => exact (through_reply w m payload).map _
  | provision name a media =>
    exact ((through_onPeers _).bind fun h => (through_onPeers _).bind fun _ => .pure h).map _
  | removePeer peer => exact (through_removePeer peer).map _
  | handshake peer => exact (through_handshake w peer).map _
  | sendWhen peer => exact (through_sendWhen w peer).map _

end Multilink.Dispatcher
