import Multilink.Proofs.Requests
/-!
# What received frames add up to

A received frame is counted where it is refused or queued, in four different places.
`Dispatcher.inflow` is what these places keep: four counts and the items of the application queue.
`Dispatcher.inflow_receive` says what one frame does to them, as a function of its outcome, and
`Dispatcher.totals` adds this up over frames in a row.

A priority message is for its handler. `Dispatcher.handledOnce` says that a frame does with a handler
what it does without one, and that the handler then acts once, on what the attempt to send the receipt
has left.
-/

namespace Multilink

namespace Error

/-- A filter rejected the message. -/
def isFiltered : Error → Bool
  | .filtered _ => true
  | _ => false

/-- The frame is damaged. -/
def isMismatch : Error → Bool
  | .frame (.checksumMismatch _ _) => true
  | _ => false

theorem isFiltered_eq_false {e : Error} (h : e.isIntake = false) : e.isFiltered = false := by
  cases e <;> first | rfl | cases h

theorem isMismatch_eq_false {e : Error} (h : e.isIntake = false) : e.isMismatch = false := by
  cases e <;> first | rfl | cases h

/-- The frame is dropped, and counted as such. -/
def isDropped (e : Error) : Bool :=
  e.isMismatch || e.isProtocol

/-- Damage is no fault of the protocol, so that no error counts twice. -/
theorem toNat_isDropped (e : Error) :
    e.isDropped.toNat = e.isMismatch.toNat + e.isProtocol.toNat := by
  cases e with
  | frame e => cases e <;> rfl
  | _ => exact (Nat.zero_add _).symm

end Error

/-- Did it end in an error of this sort? -/
def failed (sort : Error → Bool) : Except Error Unit → Bool
  | .error e => sort e
  | .ok () => false

/-- What receiving has counted, and the application queue. -/
structure Inflow where
  received : Nat
  dropped : Nat
  filtered : Nat
  queued : Nat
  items : List Message

namespace Inflow

/-- After a frame with this outcome that put these items into the queue. -/
def after (i : Inflow) (r : Except Error Unit) (items : List Message) : Inflow where
  received := i.received + 1
  dropped := i.dropped + (failed Error.isDropped r).toNat
  filtered := i.filtered + (failed Error.isFiltered r).toNat
  queued := i.queued + items.length
  items := i.items ++ items

/-- After a handler with this outcome that put these items into the queue. -/
def taken (i : Inflow) (r : Except Error Unit) (items : List Message) : Inflow :=
  { i with
    filtered := i.filtered + (failed Error.isFiltered r).toNat
    queued := i.queued + items.length
    items := i.items ++ items }

end Inflow

namespace Dispatcher

open Act

variable {W α β : Type} (w : Wiring W)

def inflow (d : Dispatcher W) : Inflow where
  received := d.counters.received
  dropped := d.counters.dropped
  filtered := d.counters.filtered
  queued := d.counters.queued
  items := d.queue.items

/-! ## Steps that the inflow does not notice -/

/-- The step is no part of the inflow, and never fails as if it were. -/
structure Silent (x : Act (Dispatcher W) α) : Prop where
  keeps : Keeps inflow x
  fails : FailsWith (·.isIntake = false) x

namespace Silent

theorem pure (a : α) : Silent (Pure.pure a : Act (Dispatcher W) α) :=
  ⟨.pure a, .pure a⟩

theorem fail {e : Error} (h : e.isIntake = false) : Silent (Act.fail e : Act (Dispatcher W) α) :=
  ⟨.fail e, .fail h⟩

theorem bind {x : Act (Dispatcher W) α} {f : α → Act (Dispatcher W) β} (hx : Silent x)
    (hf : ∀ a, Silent (f a)) : Silent (x >>= f) :=
  ⟨hx.keeps.bind fun a => (hf a).keeps, hx.fails.bind fun a => (hf a).fails⟩

theorem get : Silent (Act.get (σ := Dispatcher W)) :=
  ⟨.get, .get⟩

theorem onPeers {x : Act PeerStore α} (h : FailsWith (·.isReaching = true) x) :
    Silent (onPeers x : Act (Dispatcher W) α) :=
  ⟨fun _ => rfl, (failsWith_onPeers h).mono fun _ => Error.not_isIntake_of_isReaching⟩

end Silent

theorem spared_inflow (peer : Handle) : Spared (W := W) inflow peer where
  peers _ _ _ := rfl
  sent _ := rfl
  failed _ := rfl
  transmit _ _ _ _ _ := rfl

theorem silent_send (peer : Handle) (kind : Kind) (v : UInt16) (payload : Bytes) :
    Silent (send w peer kind v payload) :=
  ⟨(spared_inflow peer).send w kind v payload,
    (failsWith_send w peer kind v payload).mono fun _ => Error.not_isIntake_of_isReaching⟩

theorem silent_takeHandshake (peer : Handle) (m : Message) : Silent (takeHandshake w peer m) := by
  unfold takeHandshake
  simp only []
  split
  · exact .fail rfl
  · refine (Silent.onPeers (PeerStore.failsWith_updateIdentity peer _ _ _)).bind fun _ => ?_
    split
    · exact (silent_send w _ _ _ _).bind fun _ => .pure ()
    · exact .pure ()

theorem silent_takeOrchestration (peer : Handle) (m : Message) :
    Silent (takeOrchestration w peer m) := by
  unfold takeOrchestration
  split
  · exact .fail rfl
  · split
    · exact Silent.get.bind fun d => (silent_send w _ _ _ _).bind fun _ => .pure ()
    · split
      · exact .fail rfl
      · refine Silent.bind ⟨fun _ => rfl, failsWith_now _⟩ fun now => ?_
        exact .onPeers (PeerStore.failsWith_update peer _)

/-! ## The receipt for a priority message -/

/-- The dispatcher with one more priority message. -/
def countPriority (d : Dispatcher W) : Dispatcher W :=
  { d with counters := { d.counters with priority := d.counters.priority + 1 } }

/-- The dispatcher once the handler for priority messages, if there is one, has acted. -/
def handled (m : Message) (d : Dispatcher W) : Dispatcher W :=
  match w.onPriority with
  | some handle => { d with world := handle m d.world }
  | none => d

/-- The handler acts after the attempt to send a receipt, whatever came of that. -/
theorem run_takePriority {peer : Handle} {m : Message} {d t : Dispatcher W}
    {sent : Except Error Media}
    (h : (send w peer .reply m.conversation (receipt m)).run d.countPriority = (sent, t)) :
    (takePriority w peer m).run d = (sent.map fun _ => (), handled w m t) := by
  have hcount : (count fun c => { c with priority := c.priority + 1 }).run d =
      (.ok (), d.countPriority) := rfl
  unfold takePriority handled
  rw [run_bind_ok hcount, run_bind_attempt h]
  cases w.onPriority <;> rfl

theorem inflow_handled (m : Message) (d : Dispatcher W) : (handled w m d).inflow = d.inflow := by
  unfold handled
  cases w.onPriority <;> rfl

theorem silent_takePriority (peer : Handle) (m : Message) : Silent (takePriority w peer m) := by
  have hsend := silent_send w peer .reply m.conversation (receipt m)
  constructor
  · intro d
    have hkeeps := hsend.keeps d.countPriority
    rcases hrun : (send w peer .reply m.conversation (receipt m)).run d.countPriority with ⟨sent, t⟩
    rw [hrun] at hkeeps
    rw [run_takePriority w hrun, inflow_handled]
    exact hkeeps
  · intro d e he
    have hfails := hsend.fails d.countPriority
    rcases hrun : (send w peer .reply m.conversation (receipt m)).run d.countPriority with ⟨sent, t⟩
    rw [hrun] at hfails
    rw [run_takePriority w hrun] at he
    cases sent with
    | ok _ => cases he
    | error e' =>
      cases he
      exact hfails e rfl

/-! ## Handlers -/

/-- The items that a message with this outcome puts into the queue: itself, if it is taken and of a
kind that is for the application. -/
def accepted (m : Message) : Except Error Unit → List Message
  | .ok () => if m.kind.filterable then [m] else []
  | .error _ => []

/-- What a handler does to the inflow. -/
structure Taken (m : Message) (d : Dispatcher W) (o : Except Error Unit × Dispatcher W) : Prop where
  inflow : o.2.inflow = d.inflow.taken o.1 (accepted m o.1)
  readable : failed Error.isMismatch o.1 = false
  rejected : failed Error.isFiltered o.1 = true → o.2.conversations = d.conversations

theorem Silent.taken {x : Act (Dispatcher W) Unit} (h : Silent x) {m : Message}
    (hk : m.kind.filterable = false) (d : Dispatcher W) : Taken m d (x.run d) := by
  have hkeeps := h.keeps d
  have hfails := h.fails d
  rcases hrun : x.run d with ⟨e | _, t⟩
  · have he := hfails e (congrArg Prod.fst hrun)
    rw [hrun] at hkeeps
    have hfiltered := Error.isFiltered_eq_false he
    refine ⟨?_, Error.isMismatch_eq_false he, fun h => ?_⟩
    · simp [hkeeps, Inflow.taken, failed, accepted, hfiltered]
    · cases hfiltered.symm.trans h
  · rw [hrun] at hkeeps
    refine ⟨?_, rfl, nofun⟩
    simp [hkeeps, Inflow.taken, failed, accepted, hk]

theorem taken_filtered (m : Message) (k : Kind) (d : Dispatcher W) :
    Taken m d (.error (.filtered k), d.countFiltered) := by
  refine ⟨?_, rfl, fun _ => rfl⟩
  simp [Inflow.taken, inflow, countFiltered, failed, accepted, Error.isFiltered]

/-- An item that is put into the queue, or refused by it. -/
theorem taken_enqueue {m : Message} (hk : m.kind.filterable = true) {d d' : Dispatcher W}
    (hd : d'.inflow = d.inflow) : Taken m d ((enqueue m).run d') := by
  rcases run_enqueue m d' with ⟨e, queue, hitems, hrun⟩ | ⟨queue, hitems, hrun⟩
  · rw [hrun]
    refine ⟨?_, rfl, nofun⟩
    rw [← hd]
    simp [Inflow.taken, inflow, failed, accepted, Error.isFiltered, hitems]
  · rw [hrun]
    refine ⟨?_, rfl, nofun⟩
    rw [← hd]
    simp [Inflow.taken, inflow, countQueued, failed, accepted, hk, hitems]

theorem taken_takeRequest {m : Message} (hk : m.kind.filterable = true) (peer : Handle)
    (d : Dispatcher W) : Taken m d ((takeRequest w peer m).run d) := by
  rcases run_takeRequest w peer m d with hrun | ⟨e, queue, hitems, hrun⟩ | ⟨queue, hitems, hrun⟩
  · rw [hrun]
    exact taken_filtered m m.kind d
  · rw [hrun]
    refine ⟨?_, rfl, nofun⟩
    simp [Inflow.taken, inflow, failed, accepted, Error.isFiltered, hitems]
  · rw [hrun]
    refine ⟨?_, rfl, nofun⟩
    simp [Inflow.taken, inflow, countQueued, failed, accepted, hk, hitems]

theorem taken_take (peer : Handle) (m : Message) (d : Dispatcher W) :
    Taken m d ((take w peer m).run d) := by
  unfold take
  cases hk : m.kind with
  | handshake => exact (silent_takeHandshake w peer m).taken (by rw [hk]; rfl) d
  | request => exact taken_takeRequest w (by rw [hk]; rfl) peer d
  | reply =>
    rcases run_takeReply w peer m d with hrun | hrun
    · rw [hrun]
      exact taken_filtered m m.kind d
    · rw [hrun]
      exact taken_enqueue (by rw [hk]; rfl) rfl
  | data =>
    rcases run_takeData w m d with hrun | hrun
    · rw [hrun]
      exact taken_filtered m m.kind d
    · rw [hrun]
      exact taken_enqueue (by rw [hk]; rfl) rfl
  | priority => exact (silent_takePriority w peer m).taken (by rw [hk]; rfl) d
  | orchestration => exact (silent_takeOrchestration w peer m).taken (by rw [hk]; rfl) d
  | qos => exact (Silent.pure ()).taken (by rw [hk]; rfl) d

/-! ## One frame -/

/-- The items that a frame with this outcome puts into the queue: what is read from it, with the
medium it came on and the peer that sent it, if it is taken and of a kind that is for the
application. -/
def delivered (f : Inbound) (d : Dispatcher W) (r : Except Error Unit) : List Message :=
  match Frame.parse? f.bytes with
  | .ok m =>
    accepted { m with media := some f.media, peer := some (d.peers.attribution f.sender) } r
  | .error _ => []

theorem delivered_error (f : Inbound) (d : Dispatcher W) (e : Error) :
    delivered f d (.error e) = [] := by
  unfold delivered
  split <;> rfl

/-- What a frame does to the inflow. -/
structure Received (f : Inbound) (d : Dispatcher W) (o : Except Error Unit × Dispatcher W) : Prop where
  inflow : o.2.inflow = d.inflow.after o.1 (delivered f d o.1)
  rejected : failed Error.isFiltered o.1 = true → o.2.conversations = d.conversations

/-- What is left to count when a frame has gone its way: errors of the protocol. -/
theorem received_of_route {f : Inbound} {d t : Dispatcher W} {r : Except Error Unit}
    {items : List Message} (hroute : (route w f).run d.countReceived = (r, t))
    (hitems : delivered f d r = items)
    (hinflow : t.inflow =
      { d.inflow.taken r items with
        received := d.inflow.received + 1
        dropped := d.inflow.dropped + (failed Error.isMismatch r).toNat })
    (hrejected : failed Error.isFiltered r = true → t.conversations = d.conversations) :
    Received f d ((receive w f).run d) := by
  rw [run_receive, hroute]
  cases r with
  | ok u =>
    refine ⟨?_, nofun⟩
    rw [hitems]
    exact hinflow
  | error e =>
    have hcount : (if e.isProtocol then t.countDropped else t).inflow =
        { t.inflow with dropped := t.inflow.dropped + e.isProtocol.toNat } := by
      cases e.isProtocol <;> rfl
    refine ⟨?_, fun h => ?_⟩
    · simp only [hcount, hinflow, hitems]
      simp only [Inflow.after, Inflow.taken, failed, Error.toNat_isDropped, Nat.add_assoc]
    · refine Eq.trans ?_ (hrejected h)
      show (if e.isProtocol then t.countDropped else t).conversations = t.conversations
      cases e.isProtocol <;> rfl

/-- A frame that puts nothing into the queue. -/
theorem received_of_error {f : Inbound} {d t : Dispatcher W} {e : Error}
    (hroute : (route w f).run d.countReceived = (.error e, t)) (he : e.isFiltered = false)
    (hinflow : t.inflow =
      { d.inflow with
        received := d.inflow.received + 1
        dropped := d.inflow.dropped + e.isMismatch.toNat }) :
    Received f d ((receive w f).run d) := by
  refine received_of_route w hroute (delivered_error f d e) ?_ fun h => ?_
  · rw [hinflow]
    simp [Inflow.taken, failed, he]
  · cases he.symm.trans h

/-- Every frame is counted as received, dropped, filtered and queued for what comes of it. -/
theorem inflow_receive (f : Inbound) (d : Dispatcher W) : Received f d ((receive w f).run d) := by
  have hway := way w f d.countReceived
  generalize hroute : (route w f).run d.countReceived = o at hway
  cases hway with
  | @unreadable e hread =>
    refine received_of_error w hroute rfl ?_
    rcases (Frame.parse?_eq_error_iff _ _).1 hread with ⟨-, rfl⟩ | ⟨-, k, -, -, rfl⟩
    all_goals rfl
  | @damaged m e e' t hread _ hdamage hrefused =>
    obtain ⟨told, actual, rfl⟩ := Frame.mismatch_of_read hread hdamage
    rcases run_checkIntegrity_damaged hdamage d.countReceived with
      ⟨-, hrun⟩ | ⟨-, -, hrun⟩ | ⟨-, p, slots, -, -, hrun⟩
    all_goals
      cases hrefused.symm.trans hrun
      exact received_of_error w hroute rfl rfl
  | @unattributed m e _ _ _ hfault =>
    refine received_of_error w hroute (Error.isFiltered_eq_false hfault) ?_
    rw [Error.isMismatch_eq_false hfault]
    rfl
  | @taken m peer t hrouted hmet =>
    -- learning, greeting and noting the sender is no part of the inflow, so the handler decides
    have hinflow : (t.heard f.media peer).inflow = d.countReceived.inflow :=
      hmet.view (spared_inflow peer) fun _ _ => rfl
    have hconv : (t.heard f.media peer).conversations = d.conversations := hmet.conversations
    have hpeer : peer = d.peers.attribution f.sender := hmet.attribution
    have htaken := taken_take w peer { m with media := some f.media, peer := some peer }
      (t.heard f.media peer)
    rcases hrun : (take w peer { m with media := some f.media, peer := some peer }).run
      (t.heard f.media peer) with ⟨r, u⟩
    rw [hrun] at htaken hroute
    have hitems : delivered f d r =
        accepted { m with media := some f.media, peer := some peer } r := by
      rw [delivered, hrouted.read, hpeer]
    refine received_of_route w hroute hitems ?_ fun h => (htaken.rejected h).trans hconv
    rw [htaken.inflow, htaken.readable, hinflow]
    rfl

end Dispatcher

/-! ## The handler for priority messages -/

/-- The same wiring without a handler for priority messages. -/
def Wiring.unhandled {W : Type} (w : Wiring W) : Wiring W :=
  { w with onPriority := none }

namespace Dispatcher

open Act

variable {W : Type} (w : Wiring W)

theorem trySend_unhandled (peer : Handle) (bytes : Bytes) (usable : MediaSet) (n : Nat) :
    trySend w.unhandled peer bytes usable n = trySend w peer bytes usable n := by
  induction n with
  | zero => rfl
  | succ n ih =>
    unfold trySend
    rw [ih]
    rfl

theorem send_unhandled (peer : Handle) (kind : Kind) (v : UInt16) (payload : Bytes) :
    send w.unhandled peer kind v payload = send w peer kind v payload := by
  unfold send sendMessage
  simp only [trySend_unhandled]
  rfl

theorem resolveSender_unhandled (sender : Sender) (m : Media) (kind : Kind) :
    resolveSender w.unhandled sender m kind = resolveSender w sender m kind := by
  cases sender with
  | relation r => rfl
  | address a =>
    unfold resolveSender handshake
    simp only [send_unhandled]
    rfl

theorem take_unhandled (peer : Handle) {m : Message} (hk : m.kind ≠ .priority) :
    take w.unhandled peer m = take w peer m := by
  unfold take
  cases h : m.kind with
  | priority => exact absurd h hk
  | handshake =>
    simp only [takeHandshake, send_unhandled]
    rfl
  | orchestration => simp only [takeOrchestration, send_unhandled]
  | _ => rfl

/-- The handler for priority messages acts once on each that is routed, after the attempt to send the
receipt, whatever came of that; it makes no other difference to what a frame does. -/
def HandledOnce (f : Inbound) (d : Dispatcher W) : Prop :=
  (∃ m peer t sent u, Routed w f d.countReceived m peer t ∧ m.kind = .priority ∧
    (send w peer .reply m.conversation (receipt m)).run (t.heard f.media peer).countPriority =
      (sent, u) ∧
    (receive w.unhandled f).run d = (sent.map fun _ => (), u) ∧
    (receive w f).run d = (sent.map fun _ => (),
      handled w { m with media := some f.media, peer := some peer } u)) ∨
  ((∀ m peer t, Routed w f d.countReceived m peer t → m.kind ≠ .priority) ∧
    (receive w.unhandled f).run d = (receive w f).run d)

theorem Routed.unhandled {w : Wiring W} {f : Inbound} {d t : Dispatcher W} {m : Message}
    {peer : Handle} (h : Routed w f d m peer t) : Routed w.unhandled f d m peer t :=
  ⟨h.read, h.sound, (congrFun (resolveSender_unhandled w f.sender f.media m.kind) d).trans h.sender⟩

theorem run_receive_congr {w w' : Wiring W} {f : Inbound} {d : Dispatcher W}
    (h : (route w' f).run d.countReceived = (route w f).run d.countReceived) :
    (receive w' f).run d = (receive w f).run d := by
  rw [run_receive, run_receive, h]

/-- That a receipt could not be sent does not count as a fault of the frame. -/
theorem run_receive_priority {f : Inbound} {d t u u' : Dispatcher W} {m : Message} {peer : Handle}
    {sent : Except Error Media}
    (hsend : (send w peer .reply m.conversation (receipt m)).run t = (sent, u))
    (hroute : (route w f).run d.countReceived = (sent.map fun _ => (), u')) :
    (receive w f).run d = (sent.map fun _ => (), u') := by
  rw [run_receive, hroute]
  cases sent with
  | ok _ => rfl
  | error e =>
    have he : e.isProtocol = false :=
      Error.not_isProtocol_of_isReaching (failsWith_send w _ _ _ _ t e (congrArg Prod.fst hsend))
    simp [Except.map, he]

/-- A priority message goes to the handler once the attempt to send its receipt is over. -/
theorem Routed.receipted {w : Wiring W} {f : Inbound} {d t : Dispatcher W} {m : Message}
    {peer : Handle} (hrouted : Routed w f d.countReceived m peer t) (hk : m.kind = .priority) :
    ∃ sent u,
      (send w peer .reply m.conversation (receipt m)).run (t.heard f.media peer).countPriority =
        (sent, u) ∧
      (receive w.unhandled f).run d = (sent.map fun _ => (), u) ∧
      (receive w f).run d = (sent.map fun _ => (),
        handled w { m with media := some f.media, peer := some peer } u) := by
  rcases hsend : (send w peer .reply m.conversation (receipt m)).run
    (t.heard f.media peer).countPriority with ⟨sent, u⟩
  have htake (w' : Wiring W) (hsend' : (send w' peer .reply m.conversation (receipt m)).run
      (t.heard f.media peer).countPriority = (sent, u)) :
      (take w' peer { m with media := some f.media, peer := some peer }).run
          (t.heard f.media peer) =
        (sent.map fun _ => (),
          handled w' { m with media := some f.media, peer := some peer } u) := by
    simp only [take, hk]
    exact run_takePriority w' hsend'
  have hsend' := (congrFun (send_unhandled w peer .reply m.conversation (receipt m))
    (t.heard f.media peer).countPriority).trans hsend
  refine ⟨sent, u, rfl, ?_, ?_⟩
  · exact run_receive_priority _ hsend'
      (hrouted.unhandled.run_route.trans (htake w.unhandled hsend'))
  · exact run_receive_priority _ hsend (hrouted.run_route.trans (htake w hsend))

theorem handledOnce (f : Inbound) (d : Dispatcher W) : HandledOnce w f d := by
  have hway := way w f d.countReceived
  generalize hroute : (route w f).run d.countReceived = o at hway
  cases hway with
  | unreadable hread =>
    refine .inr ⟨fun m peer t h => ?_, run_receive_congr ?_⟩
    · cases hread.symm.trans h.read
    · rw [hroute, run_route_unreadable w.unhandled hread]
  | damaged hread hchecked hdamage hrefused =>
    refine .inr ⟨fun m peer t h => ?_, run_receive_congr ?_⟩
    · obtain ⟨c, hc⟩ := h.sound hchecked
      cases hdamage.symm.trans hc
    · rw [hroute, run_route w.unhandled hread, if_pos hchecked, run_bind_error hrefused]
  | unattributed hread hsound hsender hfault =>
    refine .inr ⟨fun m peer t h => ?_, run_receive_congr ?_⟩
    · obtain rfl := Except.ok.inj (hread.symm.trans h.read)
      cases hsender.symm.trans h.sender
    · rw [hroute, run_route_sound w.unhandled hread hsound]
      exact run_bind_error
        ((congrFun (resolveSender_unhandled w f.sender f.media _) d.countReceived).trans hsender)
  | @taken m peer t hrouted hmet =>
    by_cases hk : m.kind = .priority
    · obtain ⟨sent, u, hreceipted⟩ := hrouted.receipted hk
      exact .inl ⟨m, peer, t, sent, u, hrouted, hk, hreceipted⟩
    · refine .inr ⟨fun m' peer' t' h => ?_, run_receive_congr ?_⟩
      · obtain rfl := Except.ok.inj (hrouted.read.symm.trans h.read)
        exact hk
      · rw [hroute, hrouted.unhandled.run_route, take_unhandled]
        exact hk

/-! ## Frames in a row -/

/-- What a frame came to: its outcome, and the items that it put into the application queue. -/
structure Arrival where
  result : Except Error Unit
  items : List Message

/-- A frame is received. Then the node goes on until the next frame: it sends, it takes items from the
queue, its peers and conversations come and go, but it does not count as it does for a frame. -/
def Receives (d : Dispatcher W) (f : Inbound) (a : Arrival) (t : Dispatcher W) : Prop :=
  ∃ u, (receive w f).run d = (a.result, u) ∧ u.queue.items = d.queue.items ++ a.items ∧
    ∃ items, t.inflow = { u.inflow with items }

/-- The node does nothing before the next frame. -/
theorem Receives.of_run {w : Wiring W} {f : Inbound} {d : Dispatcher W} {r : Except Error Unit}
    {items : List Message} (hr : ((receive w f).run d).1 = r)
    (hitems : ((receive w f).run d).2.queue.items = d.queue.items ++ items) :
    Receives w d f ⟨r, items⟩ ((receive w f).run d).2 :=
  ⟨_, Prod.ext hr rfl, hitems, _, rfl⟩

/-- The counts are those of the frames received and of what they came to. -/
structure Totals (d : Dispatcher W) (tr : List (Inbound × Arrival)) (t : Dispatcher W) : Prop where
  received : t.counters.received = d.counters.received + tr.length
  dropped : t.counters.dropped =
    d.counters.dropped + tr.countP fun c => failed Error.isDropped c.2.result
  filtered : t.counters.filtered =
    d.counters.filtered + tr.countP fun c => failed Error.isFiltered c.2.result
  queued : t.counters.queued = d.counters.queued + (tr.flatMap fun c => c.2.items).length

theorem countP_snoc {α : Type} (p : α → Bool) (l : List α) (a : α) :
    (l ++ [a]).countP p = l.countP p + (p a).toNat := by
  rw [List.countP_append, List.countP_singleton]
  cases p a <;> rfl

theorem Totals.snoc {d s t : Dispatcher W} {tr : List (Inbound × Arrival)} {f : Inbound} {a : Arrival}
    (h : Totals d tr s) (hstep : Receives w s f a t) : Totals d (tr ++ [(f, a)]) t := by
  obtain ⟨u, hrun, hitems, items, ht⟩ := hstep
  have hu := (inflow_receive w f s).inflow
  rw [hrun] at hu
  have hdelivered : a.items = delivered f s a.result :=
    List.append_cancel_left (hitems.symm.trans (congrArg Inflow.items hu))
  rw [hu, ← hdelivered] at ht
  refine ⟨?_, ?_, ?_, ?_⟩
  · rw [List.length_append, ← Nat.add_assoc, ← h.received]
    exact congrArg Inflow.received ht
  · rw [countP_snoc, ← Nat.add_assoc, ← h.dropped]
    exact congrArg Inflow.dropped ht
  · rw [countP_snoc, ← Nat.add_assoc, ← h.filtered]
    exact congrArg Inflow.filtered ht
  · rw [List.flatMap_append, List.length_append, ← Nat.add_assoc, ← h.queued, List.flatMap_singleton]
    exact congrArg Inflow.queued ht

theorem totals {d t : Dispatcher W} {tr : List (Inbound × Arrival)} (h : Trace (Receives w) d tr t) :
    Totals d tr t := by
  induction h with
  | nil => exact ⟨rfl, rfl, rfl, rfl⟩
  | snoc _ hstep ih => exact ih.snoc w hstep

/-- Each frame is counted once for what becomes of it, puts exactly one item into the queue if it is
taken and for the application, and none otherwise, and leaves the conversations alone if a filter
rejects it. A priority message that is routed is handled once. Over any frames in a row the counts add
up. -/
theorem receive_accounted :
    (∀ f d, Received f d ((receive w f).run d) ∧ HandledOnce w f d) ∧
      ∀ d tr t, Trace (Receives w) d tr t → Totals d tr t :=
  ⟨fun f d => ⟨inflow_receive w f d, handledOnce w f d⟩, fun _ _ _ h => totals w h⟩

/-- A request is queued, its copy finds the queue full, data is filtered, a damaged request is dropped,
and a priority message, for which the queue need not have room, is handled. -/
theorem five_arrivals :
    let w : Wiring Nat :=
      { drivers := [.sink .busCan]
        filters := [(.data, fun _ => true)]
        onPriority := some fun _ n => n + 1 }
    let d := knowing ⟨2, 0, 0, 0, 0, 1⟩ ⟨2, 0, 0, 0, 0, 2⟩ 1 0
    let data := { asking with bytes := Frame.build .data 6 [0x78, 0x00] }
    let damaged := { asking with bytes := [0x0C, 0xA4, 0xBF, 0x5E, 0x01, 0x00, 0x05, 0x79, 0x00] }
    let urgent := { asking with bytes := Frame.build .priority 7 [0x78, 0x00] }
    let item := { Message.outbound .request 5 [0x78, 0x00] with
      media := some .busCan, peer := some ⟨1⟩ }
    ∃ e t, Trace (Receives w) d
        [(asking, ⟨.ok (), [item]⟩), (asking, ⟨.error (.queue .busy), []⟩),
          (data, ⟨.error (.filtered .data), []⟩), (damaged, ⟨.error (.frame e), []⟩),
          (urgent, ⟨.ok (), []⟩)] t ∧
      t.counters.received = 5 ∧ t.counters.dropped = 2 ∧ t.counters.filtered = 1 ∧
      t.counters.queued = 1 ∧ t.world = 1 := by
  intro w d data damaged urgent item
  let e : FrameError :=
    .checksumMismatch 0x0CA4BF5E (checksum [0x01, 0x00, 0x05, 0x79, 0x00])
  let t₁ := ((receive w asking).run d).2
  let t₂ := ((receive w asking).run t₁).2
  let t₃ := ((receive w data).run t₂).2
  let t₄ := ((receive w damaged).run t₃).2
  let t₅ := ((receive w urgent).run t₄).2
  have h₁ : Receives w d asking ⟨.ok (), [item]⟩ t₁ :=
    .of_run (by decide +kernel) (by decide +kernel)
  have h₂ : Receives w t₁ asking ⟨.error (.queue .busy), []⟩ t₂ :=
    .of_run (by decide +kernel) (by decide +kernel)
  have h₃ : Receives w t₂ data ⟨.error (.filtered .data), []⟩ t₃ :=
    .of_run (by decide +kernel) (by decide +kernel)
  have h₄ : Receives w t₃ damaged ⟨.error (.frame e), []⟩ t₄ :=
    .of_run (by decide +kernel) (by decide +kernel)
  have h₅ : Receives w t₄ urgent ⟨.ok (), []⟩ t₅ :=
    .of_run (by decide +kernel) (by decide +kernel)
  have htrace := ((((Trace.nil.snoc h₁).snoc h₂).snoc h₃).snoc h₄).snoc h₅
  obtain ⟨hreceived, hdropped, hfiltered, hqueued⟩ := (receive_accounted w).2 _ _ _ htrace
  exact ⟨e, t₅, htrace, hreceived, hdropped, hfiltered, hqueued, by decide +kernel⟩

end Dispatcher

end Multilink
