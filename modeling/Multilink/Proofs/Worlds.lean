import Multilink.Proofs.Air
import Multilink.Proofs.Calls
import Multilink.Proofs.Handling
import Multilink.Proofs.Requests
/-!
# What a dispatcher does to the world of its drivers

A dispatcher acts on the world of its drivers through them and through its handler for priority
messages, and in no other way. If each of these changes the world only as a relation allows that may
be repeated, `Wiring.Within`, then so does every call of the dispatcher, `Dispatcher.Call.within`.
-/

namespace Multilink

variable {W α β : Type}

/-- The drivers and the handler for priority messages change the world only so, however often. -/
structure Wiring.Within (w : Wiring W) (R : W → W → Prop) : Prop where
  rest v : R v v
  trans {u v x : W} : R u v → R v x → R u x
  driver : ∀ d ∈ w.drivers, ∀ target m bytes v, R v (d.send target m bytes v).2
  handler : ∀ handle, w.onPriority = some handle → ∀ m v, R v (handle m v)

namespace Dispatcher

open Act

/-- The step changes the world only so, whatever its outcome. -/
def Within (R : W → W → Prop) (x : Act (Dispatcher W) α) : Prop :=
  ∀ d, R d.world (x.run d).2.world

variable {w : Wiring W} {R : W → W → Prop}

theorem Within.of_keeps (hw : w.Within R) {x : Act (Dispatcher W) α} (h : Keeps world x) :
    Within R x := by
  intro d
  rw [h d]
  exact hw.rest d.world

theorem Within.bind (hw : w.Within R) {x : Act (Dispatcher W) α} {f : α → Act (Dispatcher W) β}
    (hx : Within R x) (hf : ∀ a, Within R (f a)) : Within R (x >>= f) := by
  intro d
  have h := hx d
  rw [run_bind]
  split
  · next a t ht =>
    rw [ht] at h
    exact hw.trans h (hf a t)
  · next e t ht =>
    rw [ht] at h
    exact h

theorem filed_world (peer : Handle) : Filed (W := W) world peer where
  counted _ _ := rfl
  opened _ _ _ := rfl
  closed _ _ _ := rfl
  queued := keeps_enqueue (fun _ _ => rfl) fun _ _ => rfl

theorem keeps_world_noteSent (driver : Driver W) (peer : Handle) (target : Address) (m : Media) :
    Keeps world (noteSent driver peer target m) := by
  refine (keeps_world_onPeers _).bind fun _ => Keeps.get.bind fun d => ?_
  split
  · exact (keeps_world_onPeers _).bind fun _ => (filed_world peer).counted _
  · exact (Keeps.pure ()).bind fun _ => (filed_world peer).counted _

/-! ## Sending -/

variable (hw : w.Within R)
include hw

theorem within_transmit {driver : Driver W} (h : driver ∈ w.drivers) (target : Address) (m : Media)
    (bytes : Bytes) : Within R (transmit driver target m bytes) := fun d =>
  hw.driver driver h target m bytes d.world

theorem within_trySend (peer : Handle) (bytes : Bytes) (usable : MediaSet) (n : Nat) :
    Within R (trySend w peer bytes usable n) := by
  induction n with
  | zero => exact .of_keeps hw (Keeps.fail _)
  | succ n ih =>
    unfold trySend
    refine .bind hw (.of_keeps hw fun _ => rfl) fun now => ?_
    refine .bind hw (.of_keeps hw (keeps_world_onPeers _)) ?_
    rintro ⟨media, target⟩
    cases media with
    | none => exact .of_keeps hw (Keeps.fail _)
    | some m =>
      refine .bind hw (.of_keeps hw Keeps.get) fun d => ?_
      split
      · exact .of_keeps hw (Keeps.fail _)
      · next driver hcarrier =>
        have hmem : driver ∈ w.drivers := List.mem_of_find?_eq_some hcarrier
        refine .bind hw (within_transmit hw hmem target m bytes) fun r => ?_
        cases r with
        | ok _ =>
          refine .bind hw (.of_keeps hw (keeps_world_noteSent driver peer target m)) fun _ => ?_
          exact .of_keeps hw (Keeps.pure m)
        | error _ => exact .bind hw (.of_keeps hw (keeps_world_noteFailed peer m)) fun _ => ih

theorem within_sendMessage (peer : Handle) (bytes : Bytes) : Within R (sendMessage w peer bytes) :=
  .bind hw (.of_keeps hw Keeps.get) fun _ => within_trySend hw peer bytes _ w.attempts

theorem within_send (peer : Handle) (kind : Kind) (v : UInt16) (payload : Bytes) :
    Within R (send w peer kind v payload) :=
  within_sendMessage hw peer _

theorem within_handshake (peer : Handle) : Within R (handshake w peer) :=
  .bind hw (within_send hw peer _ _ _) fun _ => .of_keeps hw (Keeps.pure ())

theorem within_reply (m : Message) (payload : Bytes) : Within R (reply w m payload) := by
  unfold reply
  split
  · exact .of_keeps hw (Keeps.fail _)
  · next peer _ =>
    have hsend : Within R (attempt (send w peer .reply m.conversation payload)) :=
      within_send hw peer _ _ _
    refine .bind hw hsend fun sent => .of_keeps hw ?_
    split
    · exact ((filed_world peer).closed _ _).attempt.bind fun _ => keeps_conclude sent
    · exact keeps_conclude sent

/-! ## Handlers -/

theorem within_takeHandshake (peer : Handle) (m : Message) : Within R (takeHandshake w peer m) := by
  unfold takeHandshake
  simp only []
  split
  · exact .of_keeps hw (Keeps.fail _)
  · refine .bind hw (.of_keeps hw (keeps_world_onPeers _)) fun _ => ?_
    split
    · exact .bind hw (within_send hw peer _ _ _) fun _ => .of_keeps hw (Keeps.pure ())
    · exact .of_keeps hw (Keeps.pure ())

theorem within_takePriority (peer : Handle) (m : Message) : Within R (takePriority w peer m) := by
  have hsend : Within R (attempt (send w peer .reply m.conversation (receipt m))) :=
    within_send hw peer _ _ _
  refine .bind hw (.of_keeps hw fun _ => rfl) fun _ => .bind hw hsend fun sent => ?_
  split
  · next handle hhandle =>
    refine .bind hw (fun d => ?_) fun _ => .of_keeps hw (keeps_conclude sent)
    exact hw.handler handle hhandle m d.world
  · exact .of_keeps hw ((Keeps.pure ()).bind fun _ => keeps_conclude sent)

theorem within_takeOrchestration (peer : Handle) (m : Message) :
    Within R (takeOrchestration w peer m) := by
  unfold takeOrchestration
  split
  · exact .of_keeps hw (Keeps.fail _)
  · split
    · refine .bind hw (.of_keeps hw Keeps.get) fun d => ?_
      exact .bind hw (within_send hw peer _ _ _) fun _ => .of_keeps hw (Keeps.pure ())
    · split
      · exact .of_keeps hw (Keeps.fail _)
      · exact .of_keeps hw (Keeps.bind (fun _ => rfl) fun _ => keeps_world_onPeers _)

theorem within_take (peer : Handle) (m : Message) : Within R (take w peer m) := by
  unfold take
  cases m.kind with
  | handshake => exact within_takeHandshake hw peer m
  | request => exact .of_keeps hw ((filed_world peer).takeRequest m)
  | reply => exact .of_keeps hw ((filed_world peer).takeReply m)
  | data => exact .of_keeps hw ((filed_world peer).takeData m)
  | priority => exact within_takePriority hw peer m
  | orchestration => exact within_takeOrchestration hw peer m
  | qos => exact .of_keeps hw (Keeps.pure ())

/-! ## Receiving -/

theorem Met.within {sender : Sender} {kind : Kind} {d t : Dispatcher W} {h : Handle}
    (hm : Met w sender kind d h t) : R d.world t.world := by
  cases hm with
  | known => exact hw.rest d.world
  | @learned p _ _ _ _ =>
    unfold welcomed
    split
    · exact hw.rest d.world
    · exact within_handshake hw p.handle (d.joined p)

theorem within_receive (f : Inbound) : Within R (receive w f) := by
  intro d
  have hcount : ((receive w f).run d).2.world = ((route w f).run d.countReceived).2.world :=
    view_receive w (fun _ _ => rfl) f d
  rw [hcount]
  have hway := way w f d.countReceived
  generalize (route w f).run d.countReceived = o at hway
  cases hway with
  | unreadable => exact hw.rest d.world
  | damaged _ _ _ hrefused =>
    have hcheck : ((checkIntegrity f).run d.countReceived).2.world = d.world :=
      view_checkIntegrity (fun _ _ => rfl) fun _ _ => keeps_world_onPeers _
    rw [hrefused] at hcheck
    rw [hcheck]
    exact hw.rest d.world
  | unattributed => exact hw.rest d.world
  | @taken m h t _ hmet =>
    exact hw.trans (hmet.within hw) (within_take hw h _ (t.heard f.media h))

/-! ## Calls -/

theorem within_startConversation (peer : Handle) (kind : Kind) (reason : String) (payload : Bytes) :
    Within R (startConversation w peer kind reason payload) := by
  have hsend (id : UInt16) : Within R (attempt (send w peer kind id payload)) :=
    within_send hw peer kind id payload
  refine .bind hw (.of_keeps hw fun _ => rfl) fun id => .bind hw (hsend id) fun sent => ?_
  cases sent with
  | ok _ => exact .of_keeps hw (Keeps.pure id)
  | error e =>
    exact .of_keeps hw (((filed_world peer).closed id _).attempt.bind fun _ => Keeps.fail e)

/-- Whatever is called. -/
theorem Call.within (c : Call) : Within R (c.act w) := by
  have hmap {α : Type} {x : Act (Dispatcher W) α} (hx : Within R x) (g : α → Answer) :
      Within R (g <$> x) := fun d => by
    rw [run_map]
    exact hx d
  cases c with
  | receive f => exact hmap (within_receive hw f) _
  | send peer kind v payload => exact hmap (within_send hw peer kind v payload) _
  | sendMessage peer bytes => exact hmap (within_sendMessage hw peer bytes) _
  | startConversation peer kind reason payload =>
    exact hmap (within_startConversation hw peer kind reason payload) _
  | reply m payload => exact hmap (within_reply hw m payload) _
  | provision name a media =>
    refine hmap (.of_keeps hw ?_) _
    exact (keeps_world_onPeers _).bind fun h => (keeps_world_onPeers _).bind fun _ => Keeps.pure h
  | removePeer peer =>
    refine hmap (.of_keeps hw ?_) _
    exact Keeps.bind (fun _ => rfl) fun _ => Keeps.bind (fun _ => rfl) fun _ => Keeps.pure ()
  | handshake peer => exact hmap (within_handshake hw peer) _
  | sendWhen peer =>
    exact hmap (.bind hw (within_send hw peer _ _ _) fun _ => .of_keeps hw (Keeps.pure ())) _

end Dispatcher

end Multilink
