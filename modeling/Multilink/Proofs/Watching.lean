import Multilink.Dispatcher.Receive
import Multilink.Proofs.Sending
/-!
# Drivers that are watched

`Wiring.watched` lets any drivers keep a record of everything that is asked of them, with their
answers. The record is kept beside their world, and a dispatcher does the same with it as without it
(`Dispatcher.through_receive` and the like for its other calls), so that what is read off the record
holds of the drivers themselves.
-/

namespace Multilink

variable {V σ τ α β : Type}

/-- A frame that a driver was asked to send, its answer, and its world before and after. -/
structure Attempt (V : Type) where
  driver : Driver V
  target : Address
  media : Media
  bytes : Bytes
  result : Except LinkError Unit
  before : V
  after : V

def Attempt.ok (c : Attempt V) : Bool :=
  c.result.isOk

/-- The world of drivers that are watched. -/
structure Watched (V : Type) where
  links : V
  calls : List (Attempt V) := []

def Driver.watched (d : Driver V) : Driver (Watched V) where
  carries := d.carries
  maxFrame a := d.maxFrame a.links
  send target m bytes a :=
    let (r, links) := d.send target m bytes a.links
    (r, { links, calls := a.calls ++ [⟨d, target, m, bytes, r, a.links, links⟩] })
  speed? target a := d.speed? target a.links

namespace Wiring

def watched (w : Wiring V) : Wiring (Watched V) where
  name := w.name
  attempts := w.attempts
  version := w.version
  drivers := w.drivers.map (·.watched)
  filters := w.filters
  onPriority := w.onPriority.map fun handle m a => { a with links := handle m a.links }
  profiles := w.profiles

theorem watched_media (w : Wiring V) : w.watched.media = w.media := by
  simp only [media, watched, List.any_map]
  rfl

theorem watched_carrier? (w : Wiring V) (m : Media) (length : Nat) (world : Watched V) :
    w.watched.carrier? m length world = (w.carrier? m length world.links).map (·.watched) := by
  simp only [carrier?, watched, List.find?_map]
  rfl

theorem watched_helloPayload (w : Wiring V) (tag : String) :
    w.watched.helloPayload tag = w.helloPayload tag := by
  simp only [helloPayload, watched_media]
  rfl

theorem watched_usable (w : Wiring V) (length : Nat) (world : Watched V) :
    w.watched.usable length world = w.usable length world.links := by
  simp [usable, watched_media, watched_carrier?]

end Wiring

/-! ## Steps through a map of states -/

/-- The second step does on the images of states what the first does on the states. -/
def Act.Through (f : σ → τ) (x : Act σ α) (y : Act τ α) : Prop :=
  ∀ s, run y (f s) = ((run x s).1, f (run x s).2)

namespace Act.Through

variable {f : σ → τ}

theorem fail (e : Error) : Through f (Act.fail e : Act σ α) (Act.fail e) := fun _ => rfl

theorem pure (a : α) : Through f (Pure.pure a : Act σ α) (Pure.pure a) := fun _ => rfl

theorem bind {x : Act σ α} {y : Act τ α} {g : α → Act σ β} {k : α → Act τ β} (h : Through f x y)
    (hk : ∀ a, Through f (g a) (k a)) : Through f (x >>= g) (y >>= k) := by
  intro s
  rw [run_bind, run_bind, h s]
  rcases run x s with ⟨_ | a, t⟩
  · rfl
  · exact hk a t

theorem attempt {x : Act σ α} {y : Act τ α} (h : Through f x y) :
    Through f (Act.attempt x) (Act.attempt y) := fun s => by
  rw [run_attempt, run_attempt, h s]

theorem map {x : Act σ α} {y : Act τ α} (h : Through f x y) (g : α → β) :
    Through f (g <$> x) (g <$> y) := fun s => by
  rw [run_map, run_map, h s]

theorem get_bind {g : σ → Act σ β} {k : τ → Act τ β} (h : ∀ s, Through f (g s) (k (f s))) :
    Through f (get >>= g) (get >>= k) := fun s => h s s

end Act.Through

namespace Dispatcher

open Act

variable (w : Wiring V)

def watched (d : Dispatcher V) : Dispatcher (Watched V) :=
  d.inWorld { links := d.world }

def unwatched (d : Dispatcher (Watched V)) : Dispatcher V :=
  d.inWorld d.world.links

theorem through_onPeers (x : Act PeerStore α) :
    Through unwatched (onPeers x : Act (Dispatcher (Watched V)) α) (onPeers x) := fun _ => rfl

theorem through_count (f : Counters → Counters) :
    Through unwatched (count f : Act (Dispatcher (Watched V)) Unit) (count f) := fun _ => rfl

theorem through_noteSent (driver : Driver V) (peer : Handle) (target : Address) (m : Media) :
    Through unwatched (noteSent driver.watched peer target m) (noteSent driver peer target m) := by
  refine (through_onPeers _).bind fun _ => .get_bind fun d => ?_
  rw [show driver.watched.speed? target d.world = driver.speed? target d.unwatched.world from rfl]
  cases driver.speed? target d.unwatched.world with
  | none => exact through_count _
  | some speed => exact (through_onPeers _).bind fun _ => through_count _

theorem through_noteFailed (peer : Handle) (m : Media) :
    Through unwatched (noteFailed peer m : Act (Dispatcher (Watched V)) Unit) (noteFailed peer m) :=
  (through_count _).bind fun _ => through_onPeers _

theorem through_transmit (driver : Driver V) (target : Address) (m : Media) (bytes : Bytes) :
    Through unwatched (transmit driver.watched target m bytes) (transmit driver target m bytes) :=
  fun _ => rfl

theorem through_trySend (peer : Handle) (bytes : Bytes) (usable : MediaSet) (n : Nat) :
    Through unwatched (trySend w.watched peer bytes usable n) (trySend w peer bytes usable n) := by
  induction n with
  | zero => exact .fail _
  | succ n ih =>
    unfold trySend
    refine Through.bind (fun _ => rfl) fun now => (through_onPeers _).bind ?_
    rintro ⟨media, target⟩
    cases media with
    | none => exact .fail _
    | some m =>
      refine .get_bind fun d => ?_
      -- both look at the same drivers, whose worlds differ by the record only
      have hworld : d.unwatched.world = d.world.links := rfl
      rw [Wiring.watched_carrier?, hworld]
      cases w.carrier? m bytes.length d.world.links with
      | none => exact .fail _
      | some driver =>
        refine (through_transmit driver target m bytes).bind ?_
        rintro (e | _)
        · exact (through_noteFailed peer m).bind fun _ => ih
        · exact (through_noteSent driver peer target m).bind fun _ => .pure m

theorem through_sendMessage (peer : Handle) (bytes : Bytes) :
    Through unwatched (sendMessage w.watched peer bytes) (sendMessage w peer bytes) := by
  refine .get_bind fun d => ?_
  rw [Wiring.watched_usable]
  exact through_trySend w peer bytes _ w.attempts

/-- A dispatcher does not notice that its drivers are watched. -/
theorem run_sendMessage_unwatched {peer : Handle} {bytes : Bytes} {d : Dispatcher V}
    {r : Except Error Media} {t : Dispatcher (Watched V)}
    (h : (sendMessage w.watched peer bytes).run d.watched = (r, t)) :
    (sendMessage w peer bytes).run d = (r, t.unwatched) := by
  rw [show d = d.watched.unwatched from rfl, through_sendMessage, h]

/-! ## The calls of a dispatcher -/

theorem through_onConversations (x : Act Tracker α) :
    Through unwatched (onConversations x : Act (Dispatcher (Watched V)) α) (onConversations x) :=
  fun _ => rfl

theorem through_conclude (r : Except Error α) :
    Through unwatched (conclude r : Act (Dispatcher (Watched V)) Unit) (conclude r) := fun _ => rfl

theorem through_send (peer : Handle) (kind : Kind) (v : UInt16) (payload : Bytes) :
    Through unwatched (send w.watched peer kind v payload) (send w peer kind v payload) :=
  through_sendMessage w peer _

theorem through_handshake (peer : Handle) :
    Through unwatched (handshake w.watched peer) (handshake w peer) := by
  unfold handshake
  rw [Wiring.watched_helloPayload]
  exact (through_send w peer _ _ _).bind fun _ => .pure ()

theorem through_sendWhen (peer : Handle) :
    Through unwatched (sendWhen w.watched peer) (sendWhen w peer) :=
  (through_send w peer _ _ _).bind fun _ => .pure ()

theorem through_startConversation (peer : Handle) (kind : Kind) (reason : String)
    (payload : Bytes) :
    Through unwatched (startConversation w.watched peer kind reason payload)
      (startConversation w peer kind reason payload) := by
  refine (through_onConversations _).bind fun id => (through_send w peer kind id payload).attempt.bind ?_
  rintro (e | _)
  · exact (through_onConversations _).attempt.bind fun _ => .fail e
  · exact .pure id

theorem through_reply (m : Message) (payload : Bytes) :
    Through unwatched (reply w.watched m payload) (reply w m payload) := by
  unfold reply
  cases m.peer with
  | none => exact .fail _
  | some peer =>
    refine (through_send w peer _ _ payload).attempt.bind fun sent => ?_
    by_cases hk : m.kind = .request
    · simp only [hk, if_true]
      exact (through_onConversations _).attempt.bind fun _ => through_conclude sent
    · simp only [hk, if_false]
      exact through_conclude sent

theorem through_removePeer (peer : Handle) :
    Through unwatched (removePeer peer : Act (Dispatcher (Watched V)) Unit) (removePeer peer) :=
  (through_onPeers _).bind fun _ => (through_onConversations _).bind fun _ => .pure ()

/-! ## Receiving -/

theorem through_checkIntegrity (f : Inbound) :
    Through unwatched (checkIntegrity f : Act (Dispatcher (Watched V)) Unit) (checkIntegrity f) := by
  unfold checkIntegrity
  split
  · exact .pure ()
  · have hfind : Through unwatched (findSender? f.sender : Act (Dispatcher (Watched V)) _)
        (findSender? f.sender) := by
      cases f.sender <;> exact through_onPeers _
    refine hfind.bind fun found => ?_
    cases found with
    | none => exact (through_count _).bind fun _ => .fail _
    | some peer => exact (through_onPeers _).bind fun _ => (through_count _).bind fun _ => .fail _

theorem through_learn (a : Address) (m : Media) :
    Through unwatched (learn a m : Act (Dispatcher (Watched V)) _) (learn a m) := by
  refine (through_onPeers _).attempt.bind fun added => ?_
  split
  · exact .pure _
  · refine (through_onPeers _).bind fun found => ?_
    cases found with
    | none => exact through_onPeers _
    | some p => exact .fail _
  · exact .fail _

theorem through_resolveSender (sender : Sender) (m : Media) (kind : Kind) :
    Through unwatched (resolveSender w.watched sender m kind) (resolveSender w sender m kind) := by
  cases sender with
  | relation r =>
    refine (through_onPeers _).bind fun found => ?_
    cases found with
    | some handle => exact .pure handle
    | none => exact .fail _
  | address a =>
    refine (through_onPeers _).bind fun found => ?_
    cases found with
    | some handle => exact .pure handle
    | none =>
      refine (through_learn a m).bind fun handle => ?_
      by_cases hk : kind = .handshake
      · simp only [hk, ne_eq, not_true_eq_false, if_false]
        exact .pure handle
      · simp only [hk, ne_eq, not_false_eq_true, if_true]
        exact (through_handshake w handle).attempt.bind fun _ => .pure handle

theorem through_applyFilter (m : Message) :
    Through unwatched (applyFilter w.watched m) (applyFilter w m) := by
  unfold applyFilter
  rw [show w.watched.rejects m = w.rejects m from rfl]
  cases w.rejects m with
  | true => exact (through_count _).bind fun _ => .fail _
  | false => exact .pure ()

theorem through_enqueue (m : Message) :
    Through unwatched (enqueue m : Act (Dispatcher (Watched V)) Unit) (enqueue m) := by
  intro d
  have hqueue : d.unwatched.queue = d.queue := rfl
  simp only [enqueue, Act.run, hqueue]
  split <;> rfl

theorem through_take (peer : Handle) (m : Message) :
    Through unwatched (take w.watched peer m) (take w peer m) := by
  unfold take
  cases m.kind with
  | handshake =>
    unfold takeHandshake
    simp only [Wiring.watched_helloPayload]
    split
    · exact .fail _
    · refine (through_onPeers _).bind fun _ => ?_
      split
      · exact (through_send w peer _ _ _).bind fun _ => .pure ()
      · exact .pure ()
  | request =>
    refine (through_applyFilter w m).bind fun _ => (through_onConversations _).attempt.bind
      fun opened => (through_enqueue m).attempt.bind fun queued => ?_
    split
    · exact (through_onConversations _).attempt.bind fun _ => through_conclude _
    · exact through_conclude _
  | reply =>
    exact (through_applyFilter w m).bind fun _ => (through_onConversations _).attempt.bind
      fun _ => through_enqueue m
  | data => exact (through_applyFilter w m).bind fun _ => through_enqueue m
  | priority =>
    refine (through_count _).bind fun _ => (through_send w peer _ _ _).attempt.bind fun sent => ?_
    rw [show w.watched.onPriority =
      w.onPriority.map fun handle m a => { a with links := handle m a.links } from rfl]
    cases w.onPriority with
    | none => exact through_conclude sent
    | some handle => exact Through.bind (fun _ => rfl) fun _ => through_conclude sent
  | orchestration =>
    unfold takeOrchestration
    cases m.fieldText? 0 with
    | none => exact .fail _
    | some text =>
      simp only []
      split
      · exact .get_bind fun d => (through_send w peer _ _ _).bind fun _ => .pure ()
      · cases Announcement.read? text with
        | none => exact .fail _
        | some window => exact Through.bind (fun _ => rfl) fun _ => through_onPeers _
  | qos => exact .pure ()

theorem through_route (f : Inbound) : Through unwatched (route w.watched f) (route w f) := by
  have hrest (m : Message) : Through unwatched
      (do
        let peer ← resolveSender w.watched f.sender f.media m.kind
        onPeers (PeerStore.recordReceive peer f.media true)
        take w.watched peer { m with media := some f.media, peer := some peer })
      (do
        let peer ← resolveSender w f.sender f.media m.kind
        onPeers (PeerStore.recordReceive peer f.media true)
        take w peer { m with media := some f.media, peer := some peer }) :=
    (through_resolveSender w _ _ _).bind fun peer => (through_onPeers _).bind fun _ =>
      through_take w peer _
  refine Through.bind (fun _ => rfl) fun m => ?_
  by_cases hc : f.checked = true
  · simp only [hc, if_true]
    exact (through_checkIntegrity f).bind fun _ => hrest m
  · simp only [hc]
    exact hrest m

theorem through_receive (f : Inbound) : Through unwatched (receive w.watched f) (receive w f) := by
  refine (through_count _).bind fun _ => (through_route w f).attempt.bind ?_
  rintro (e | _)
  · cases he : e.isProtocol with
    | true =>
      simp only [he, if_true]
      exact (through_count _).bind fun _ => .fail e
    | false =>
      simp only [he, Bool.false_eq_true, if_false]
      exact .fail e
  · exact .pure ()

end Dispatcher

end Multilink
