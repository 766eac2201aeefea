import Multilink.Proofs.Attempts
/-!
# What sending promises

Which media a frame is tried on depends on scores, and the scores on what came of earlier attempts.
`Dispatcher.Promise` is what holds whatever the scores are and whatever the drivers answer: to whom
and how often the frame is given, how the answer tells what happened, and what is counted and noted.
`Dispatcher.sendMessage_promise` shows it of drivers that are watched, as long as nobody else holds
the peers.
-/

namespace Multilink.Dispatcher

open Act

variable {V : Type} {w : Wiring V} {peer : Handle} {bytes : Bytes} {d : Dispatcher V}
variable {before after : List (Option Peer)}

/-- There is no medium that both speak and that a driver takes the frame on. -/
def Unmatched (w : Wiring V) (bytes : Bytes) (d : Dispatcher V) (p : Peer) : Prop :=
  ∀ m, p.media.contains m = true → w.media.contains m = true →
    ∀ driver ∈ w.drivers, driver.carries m = true → driver.maxFrame d.world < bytes.length

/-- What a frame comes to that is sent with nobody holding the peers. -/
structure Promise (w : Wiring V) (peer : Handle) (bytes : Bytes) (d : Dispatcher V)
    (r : Except Error Media) (t : Dispatcher (Watched V)) : Prop where
  budget : t.world.calls.length ≤ w.attempts
  once : t.world.calls.countP (·.ok) ≤ 1
  stops : ∀ before c after, t.world.calls = before ++ c :: after → c.ok = true → after = []
  routed : ∀ c ∈ t.world.calls, ∃ p, d.peers.ofHandle? peer = some p ∧
    c.Routed w.drivers w.media p bytes
  ok : ∀ m, r = .ok m ↔ ∃ c ∈ t.world.calls, c.ok = true ∧ c.media = m
  sendFail : r = .error (.sendFail peer w.attempts) ↔
    t.world.calls.length = w.attempts ∧ ∀ c ∈ t.world.calls, c.ok = false
  noMedia : r = .error (.noMedia peer) ↔
    ∃ p, d.peers.ofHandle? peer = some p ∧ Unmatched w bytes d p
  peerNotFound : r = .error (.peerNotFound peer) ↔ d.peers.ofHandle? peer = none
  outcome : (∃ m, r = .ok m) ∨ r = .error (.sendFail peer w.attempts) ∨
    r = .error (.noMedia peer) ∨ r = .error (.peerNotFound peer)
  unsent : r = .error (.noMedia peer) ∨ r = .error (.peerNotFound peer) → t = d.watched
  counters : t.counters = d.counters.tried t.world.calls
  /-- Each outcome is noted once, against the medium that was used. -/
  noted : ∀ p, d.peers.ofHandle? peer = some p → ∃ slots, t.peers = { d.peers with slots } ∧
    PeerStore.ChangedAt peer
      (fun p => some (t.world.calls.foldl (Errand.noted ⟨w, peer, bytes, d.orchestrator.clock,
        w.usable bytes.length d.world⟩) p)) d.peers.slots slots
  rest : t.conversations = d.conversations ∧ t.queue = d.queue ∧ t.orchestrator = d.orchestrator

theorem usable_iff {length : Nat} {world : V} {m : Media} :
    (w.usable length world).contains m = true ↔
      w.media.contains m = true ∧ (w.carrier? m length world).isSome = true := by
  simp [Wiring.usable]

theorem carrier?_isSome_iff {length : Nat} {world : V} {m : Media} :
    (w.carrier? m length world).isSome = true ↔
      ∃ driver ∈ w.drivers, driver.carries m = true ∧ length ≤ driver.maxFrame world := by
  simp [Wiring.carrier?]

theorem attempts_of_check (h : w.check = .ok ()) : ∃ n, w.attempts = n + 1 := by
  unfold Wiring.check at h
  cases hn : w.attempts with
  | zero => split at h <;> simp at h
  | succ n => exact ⟨n, rfl⟩

theorem run_sendMessage (d : Dispatcher V) (bytes : Bytes) :
    (sendMessage w.watched peer bytes).run d.watched =
      (trySend w.watched peer bytes (w.usable bytes.length d.world) w.attempts).run d.watched := by
  unfold sendMessage
  rw [run_bind_ok (run_get _), Wiring.watched_usable]
  rfl

/-- A peer that cannot be looked at or is not there is not asked for a second time. -/
theorem run_trySend_refused {W : Type} (w : Wiring W) {d : Dispatcher W} {err : Error}
    (bytes : Bytes) (usable : MediaSet) (n : Nat)
    (h : ∀ f : Peer → (Option Media × Address) × Peer,
      (PeerStore.withPeer peer f).run d.peers = (.error err, d.peers)) :
    (trySend w peer bytes usable (n + 1)).run d = (.error err, d) := by
  unfold trySend
  rw [run_bind_ok (show now.run d = (.ok d.orchestrator.clock, d) from rfl)]
  exact run_bind_error (run_onPeers (h _))

/-- Only a peer that is there is sent anything. -/
theorem has_of_sent {W : Type} (w : Wiring W) {d t : Dispatcher W} {m : Media}
    (h : (sendMessage w peer bytes).run d = (.ok m, t)) : d.peers.Has peer := by
  have hrun : (sendMessage w peer bytes).run d =
      (trySend w peer bytes (w.usable bytes.length d.world) w.attempts).run d := by
    unfold sendMessage
    exact run_bind_ok (run_get _)
  rw [hrun] at h
  cases hn : w.attempts with
  | zero =>
    rw [hn] at h
    unfold trySend at h
    cases h
  | succ n =>
    rw [hn] at h
    have hnot {e : Error} (hrefused : ∀ f : Peer → (Option Media × Address) × Peer,
        (PeerStore.withPeer peer f).run d.peers = (.error e, d.peers)) : d.peers.Has peer := by
      rw [run_trySend_refused w bytes _ n hrefused] at h
      cases h
    cases held : d.peers.held with
    | true => exact hnot fun f => PeerStore.run_withPeer_held held f
    | false =>
      cases hpeer : d.peers.ofHandle? peer with
      | none => exact hnot fun f => PeerStore.run_withPeer_absent held hpeer f
      | some p => exact ⟨held, by rw [hpeer]; exact Option.some_ne_none p⟩

variable {r : Except Error Media} {t : Dispatcher (Watched V)}

theorem unmatched_iff : Unmatched w bytes d p ↔
    ∀ m, p.media.contains m = true → (w.usable bytes.length d.world).contains m = false := by
  constructor
  · intro h m hm
    by_contra husable
    obtain ⟨hours, hcarrier⟩ := usable_iff.1 (by simpa using husable)
    obtain ⟨driver, hdriver, hcarries, hfits⟩ := carrier?_isSome_iff.1 hcarrier
    exact absurd (h m hm hours driver hdriver hcarries) (Nat.not_lt.2 hfits)
  · intro h m hm hours driver hdriver hcarries
    by_contra hlt
    have hcarrier := carrier?_isSome_iff.2 ⟨driver, hdriver, hcarries, Nat.not_lt.1 hlt⟩
    cases (h m hm).symm.trans (usable_iff.2 ⟨hours, hcarrier⟩)

theorem promise_of_nothing {err : Error} {n : Nat} (hn : w.attempts = n + 1)
    (free : d.peers.held = false) (herr : err = .noMedia peer ∨ err = .peerNotFound peer)
    (hmedia : err = .noMedia peer ↔ ∃ p, d.peers.ofHandle? peer = some p ∧ Unmatched w bytes d p)
    (hpeer : err = .peerNotFound peer ↔ d.peers.ofHandle? peer = none) :
    Promise w peer bytes d (.error err) d.watched where
  budget := Nat.zero_le _
  once := Nat.zero_le _
  stops _ _ _ h := by simp [watched, inWorld] at h
  routed _ h := by simp [watched, inWorld] at h
  ok m := by simp [watched, inWorld]
  sendFail := by rcases herr with rfl | rfl <;> simp [watched, inWorld, hn]
  noMedia := by simpa using hmedia
  peerNotFound := by simpa using hpeer
  outcome := by rcases herr with rfl | rfl <;> simp
  unsent _ := rfl
  counters := rfl
  noted p hp := by
    obtain ⟨before, after, hs⟩ := PeerStore.exists_seat free hp
    exact ⟨_, rfl, before, p, after, hs.slots, hs.first, hs.handle, hs.slots⟩
  rest := ⟨rfl, rfl, rfl⟩

theorem promise_of_match {p q : Peer} {cs : List (Attempt V)} {u : V}
    (hm : p.Measured) (hs : d.peers.Seat peer before after p)
    (h : Errand.Tries ⟨w, peer, bytes, d.orchestrator.clock, w.usable bytes.length d.world⟩
      w.attempts p d.world cs r q u)
    (hlimits : ∀ c ∈ cs, ∀ driver ∈ w.drivers, driver.maxFrame c.after = driver.maxFrame d.world)
    (hmatch : ¬Unmatched w bytes d p) :
    Promise w peer bytes d r (d.watched.tried before after q u cs) := by
  have hfound := PeerStore.ofHandle?_of_split hs.slots hs.first hs.handle
  obtain ⟨m, hspoken, husable⟩ : ∃ m, p.media.contains m = true ∧
      (w.usable bytes.length d.world).contains m = true := by
    simpa [unmatched_iff] using hmatch
  -- what can carry the frame now can carry it as long as the limits stay
  have hcarry (world : V)
      (hworld : ∀ driver ∈ w.drivers, driver.maxFrame world = driver.maxFrame d.world)
      (m : Media) (hm : (w.usable bytes.length d.world).contains m = true) :
      (w.carrier? m bytes.length world).isSome = true := by
    obtain ⟨driver, hdriver, hcarries, hfits⟩ := carrier?_isSome_iff.1 (usable_iff.1 hm).2
    exact carrier?_isSome_iff.2 ⟨driver, hdriver, hcarries, hworld driver hdriver ▸ hfits⟩
  obtain ⟨hq, hend⟩ := h.concludes hm hspoken husable (hcarry _ fun _ _ => rfl)
    fun c hc => hcarry _ (hlimits c hc)
  have hr : (∃ c ∈ cs, c.ok = true ∧ r = .ok c.media) ∨ r = .error (.sendFail peer w.attempts) ∧
      cs.length = w.attempts ∧ ∀ c ∈ cs, c.ok = false := by
    rcases hend with ⟨c, hc, hok⟩ | hspent
    · exact .inl ⟨c, hc, hok, h.success c hc hok⟩
    · exact .inr hspent
  have hsomewhere : r ≠ .error (.noMedia peer) ∧ r ≠ .error (.peerNotFound peer) := by
    rcases hr with ⟨c, -, -, rfl⟩ | ⟨rfl, -⟩ <;> exact ⟨nofun, nofun⟩
  constructor
  case budget => exact h.length_le
  case once => exact h.once
  case stops => exact fun _ _ _ hcs => h.stops hcs
  case routed =>
    intro c hc
    have hrouted := h.routed c hc
    exact ⟨p, hfound, { hrouted with ours := (usable_iff.1 hrouted.ours).1 }⟩
  case ok =>
    intro m
    constructor
    · intro hok
      rcases hr with ⟨c, hc, hsent, hr⟩ | ⟨hr, -⟩
      · cases hok.symm.trans hr
        exact ⟨c, hc, hsent, rfl⟩
      · cases hok.symm.trans hr
    · rintro ⟨c, hc, hsent, rfl⟩
      exact h.success c hc hsent
  case sendFail =>
    constructor
    · intro hfail
      rcases hr with ⟨c, -, -, hr⟩ | ⟨-, hspent⟩
      · cases hfail.symm.trans hr
      · exact hspent
    · rintro ⟨-, hall⟩
      rcases hr with ⟨c, hc, hsent, -⟩ | ⟨hr, -⟩
      · cases (hall c hc).symm.trans hsent
      · exact hr
  case noMedia =>
    refine iff_of_false hsomewhere.1 ?_
    rintro ⟨p', hp', hnone⟩
    cases hfound.symm.trans hp'
    exact hmatch hnone
  case peerNotFound => exact iff_of_false hsomewhere.2 (by simp [hfound])
  case outcome =>
    rcases hr with ⟨c, -, -, hr⟩ | ⟨hr, -⟩
    · exact .inl ⟨_, hr⟩
    · exact .inr (.inl hr)
  case unsent =>
    rintro (hnone | hnone)
    · exact absurd hnone hsomewhere.1
    · exact absurd hnone hsomewhere.2
  case counters => rfl
  case noted =>
    intro p' hp'
    cases hfound.symm.trans hp'
    exact ⟨_, rfl, before, p, after, hs.slots, hs.first, hs.handle, by rw [hq]; rfl⟩
  case rest => exact ⟨rfl, rfl, rfl⟩

/-- A frame to a peer that is in order, with drivers that keep their limits while it is sent: what
the drivers are asked to do, and what comes of it. While another activity holds the peers,
nothing. -/
theorem sendMessage_promise (hw : w.check = .ok ())
    (hp : ∀ p, d.peers.ofHandle? peer = some p → p.Measured)
    (hrun : (sendMessage w.watched peer bytes).run d.watched = (r, t))
    (hlimits : ∀ c ∈ t.world.calls, ∀ driver ∈ w.drivers,
      driver.maxFrame c.after = driver.maxFrame d.world) :
    (sendMessage w peer bytes).run d = (r, t.unwatched) ∧
      (d.peers.held = true → r = .error (.lockTimeout "peer store") ∧ t = d.watched) ∧
      (d.peers.held = false → Promise w peer bytes d r t) := by
  obtain ⟨n, hn⟩ := attempts_of_check hw
  refine ⟨run_sendMessage_unwatched w hrun, fun held => ?_, fun free => ?_⟩
  · have hrefused (f : Peer → (Option Media × Address) × Peer) :
        (PeerStore.withPeer peer f).run d.watched.peers =
          (.error (.lockTimeout "peer store"), d.watched.peers) :=
      PeerStore.run_withPeer_held held f
    rw [run_sendMessage, hn, run_trySend_refused _ _ _ _ hrefused] at hrun
    cases hrun
    exact ⟨rfl, rfl⟩
  · cases hpeer : d.peers.ofHandle? peer with
    | none =>
      have hrefused (f : Peer → (Option Media × Address) × Peer) :
          (PeerStore.withPeer peer f).run d.watched.peers =
            (.error (.peerNotFound peer), d.watched.peers) :=
        PeerStore.run_withPeer_absent free hpeer f
      rw [run_sendMessage, hn, run_trySend_refused _ _ _ _ hrefused] at hrun
      cases hrun
      exact promise_of_nothing hn free (.inr rfl) (by simp [hpeer]) (by simp [hpeer])
    | some p =>
      obtain ⟨before, after, hs⟩ := PeerStore.exists_seat free hpeer
      obtain ⟨cs, r', q, u, hrun', htries⟩ := run_trySend_watched (d := d.watched)
        ⟨w, peer, bytes, d.orchestrator.clock, w.usable bytes.length d.world⟩ w.attempts hs rfl
      rw [run_sendMessage, hrun'] at hrun
      cases hrun
      by_cases hmatch : Unmatched w bytes d p
      · rw [hn] at htries
        obtain ⟨rfl, rfl, rfl, rfl⟩ := htries.nowhere (unmatched_iff.1 hmatch)
        rw [tried_nil (d := d.watched) hs]
        exact promise_of_nothing hn free (.inl rfl) (by simp [hpeer, hmatch]) (by simp [hpeer])
      · exact promise_of_match (hp p hpeer) hs htries hlimits hmatch

/-- A node with one driver, whose frames all vanish, and a peer on its medium. -/
def beside (held : Bool) : Dispatcher Unit where
  peers :=
    { localAddress := ⟨2, 0, 0, 0, 0, 1⟩
      capacity := 16
      slots := [some (.make ⟨1⟩ "remote" ⟨2, 0, 0, 0, 0, 2⟩ (.singleton .busCan)
        ⟨2, 0, 0, 0, 0, 1⟩)]
      nextHandle := 2
      held }
  queue := { settings := {} }
  orchestrator := { clock := 0, window := ⟨0, 0, 0⟩ }
  world := ()

theorem vanishing_frame_sent :
    let w : Wiring Unit := { drivers := [.sink .busCan] }
    let out := (sendMessage w.watched ⟨1⟩ [1, 2]).run (beside false).watched
    w.check = .ok () ∧ Promise w ⟨1⟩ [1, 2] (beside false) out.1 out.2 ∧ out.1 = .ok .busCan := by
  intro w out
  have hfound : (beside false).peers.ofHandle? ⟨1⟩ = some _ := rfl
  have hmeasured (p : Peer) (hp : (beside false).peers.ofHandle? ⟨1⟩ = some p) : p.Measured := by
    cases hfound.symm.trans hp
    exact Peer.measured_setMedia _ _
  have hlimits : ∀ c ∈ out.2.world.calls, ∀ driver ∈ w.drivers,
      driver.maxFrame c.after = driver.maxFrame () := fun _ _ _ _ => rfl
  obtain ⟨-, -, hpromise⟩ :=
    sendMessage_promise (w := w) rfl hmeasured (Prod.eta out).symm hlimits
  have h := hpromise rfl
  have hcall : ∀ c ∈ out.2.world.calls, c.media = .busCan ∧ c.ok = true := by
    intro c hc
    obtain ⟨p, -, hrouted⟩ := h.routed c hc
    have hdriver : c.driver = .sink .busCan := List.mem_singleton.1 hrouted.driver
    have hcarries := hrouted.carries
    have hanswer := hrouted.answer
    rw [hdriver] at hcarries hanswer
    have hresult : c.result = .ok () := (congrArg Prod.fst hanswer).symm
    exact ⟨by simpa [Driver.sink] using hcarries, by rw [Attempt.ok, hresult]; rfl⟩
  refine ⟨rfl, h, ?_⟩
  rcases h.outcome with ⟨m, hr⟩ | hr | hr | hr
  · obtain ⟨c, hc, -, rfl⟩ := (h.ok m).1 hr
    rw [hr, (hcall c hc).1]
  · obtain ⟨hlength, hall⟩ := h.sendFail.1 hr
    obtain ⟨c, hc⟩ := List.exists_mem_of_length_pos (by rw [hlength]; decide)
    cases (hall c hc).symm.trans (hcall c hc).2
  · obtain ⟨p, hp, hnone⟩ := h.noMedia.1 hr
    cases hfound.symm.trans hp
    have hmedia : w.media.contains .busCan = true := by decide
    exact absurd (hnone .busCan rfl hmedia _ (.head _) rfl) (by decide)
  · cases hfound.symm.trans (h.peerNotFound.1 hr)

/-- Who is not there is not reported while the peers are held. -/
theorem absent_while_held :
    let w : Wiring Unit := { drivers := [.sink .busCan] }
    let out := (sendMessage w ⟨99⟩ [1, 2]).run (beside true)
    w.check = .ok () ∧ out.1 = .error (.lockTimeout "peer store") ∧
      ¬(out.1 = .error (.peerNotFound ⟨99⟩) ↔ (beside true).peers.ofHandle? ⟨99⟩ = none) := by
  intro w out
  have hout : out.1 = .error (.lockTimeout "peer store") := rfl
  refine ⟨rfl, hout, fun h => ?_⟩
  cases hout.symm.trans (h.2 rfl)

end Multilink.Dispatcher
