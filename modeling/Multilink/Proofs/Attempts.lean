import Multilink.Proofs.Lookups
import Multilink.Proofs.Picking
import Multilink.Proofs.Watching
/-!
# Attempts to send a frame

A frame is tried on one medium after the other, and each attempt changes what the next one picks.
`Errand.Tries` is all that a row of attempts can come to; what holds of such a row is shown by
induction on it. `Dispatcher.run_trySend_watched` is the only place that looks at the code: what it
does with drivers that are watched is such a row, with the calls that are on their record.
-/

namespace Multilink

/-! ## A peer in its slot -/

namespace PeerStore

variable {α : Type}

/-- The store with this peer between the slots before and after it. -/
def seating (s : PeerStore) (before after : List (Option Peer)) (p : Peer) : PeerStore :=
  { s with slots := before ++ some p :: after }

@[simp] theorem seating_seating (s : PeerStore) (before after : List (Option Peer)) (p q : Peer) :
    (s.seating before after p).seating before after q = s.seating before after q := rfl

/-- The peer with a handle, between the slots before and after it. -/
structure Seat (s : PeerStore) (h : Handle) (before after : List (Option Peer)) (p : Peer) :
    Prop where
  free : s.held = false
  slots : s.slots = before ++ some p :: after
  first : ∀ q, some q ∈ before → q.handle ≠ h
  handle : p.handle = h

variable {s : PeerStore} {h : Handle} {before after : List (Option Peer)} {p : Peer}

theorem alter_append (hfirst : ∀ q, some q ∈ before → q.handle ≠ h) (hp : p.handle = h)
    (f : Peer → α × Option Peer) :
    alter h f (before ++ some p :: after) = some ((f p).1, before ++ (f p).2 :: after) := by
  induction before with
  | nil => simp [alter, hp]
  | cons slot rest ih =>
    have hrest := ih fun q hq => hfirst q (.tail _ hq)
    cases slot with
    | none => simp [alter, hrest]
    | some q => simp [alter, hrest, hfirst q (.head _)]

namespace Seat

theorem seating_self (hs : s.Seat h before after p) : s.seating before after p = s := by
  simp [seating, ← hs.slots]

theorem withPeer (hs : s.Seat h before after p) (f : Peer → α × Peer) :
    (PeerStore.withPeer h f).run s = (.ok (f p).1, s.seating before after (f p).2) := by
  simp [PeerStore.withPeer, onSlot, locked, Act.run, hs.free, hs.slots, seating,
    alter_append hs.first hs.handle]

theorem update (hs : s.Seat h before after p) (f : Peer → Peer) :
    (PeerStore.update h f).run s = (.ok (), s.seating before after (f p)) :=
  hs.withPeer _

theorem recordSend (hs : s.Seat h before after p) (m : Media) (ok : Bool) :
    (PeerStore.recordSend h m ok).run s =
      (.ok (), s.seating before after (p.updateStats m (·.recordSend ok))) :=
  hs.update _

theorem recordSpeed (hs : s.Seat h before after p) (m : Media) (speed : UInt32) :
    (PeerStore.recordSpeed h m speed).run s =
      (.ok (), s.seating before after (p.updateStats m ({ · with measuredSpeed := speed }))) :=
  hs.update _

theorem replace (hs : s.Seat h before after p) {q : Peer} (hq : q.handle = p.handle) :
    (s.seating before after q).Seat h before after q :=
  ⟨hs.free, rfl, hs.first, hq.trans hs.handle⟩

end Seat

theorem run_withPeer_held (held : s.held = true) (f : Peer → α × Peer) :
    (withPeer h f).run s = (.error (.lockTimeout "peer store"), s) := by
  simp [withPeer, onSlot, locked, Act.run, held]

theorem run_withPeer_absent (free : s.held = false) (hp : s.ofHandle? h = none)
    (f : Peer → α × Peer) : (withPeer h f).run s = (.error (.peerNotFound h), s) := by
  rcases run_onSlot h (fun p => ((f p).1, some (f p).2)) s with
    ⟨held, -⟩ | ⟨-, -, hrun⟩ | ⟨-, p, -, hsome, -⟩
  · cases free.symm.trans held
  · exact hrun
  · cases hp.symm.trans hsome

theorem exists_seat (free : s.held = false) (hp : s.ofHandle? h = some p) :
    ∃ before after, s.Seat h before after p := by
  cases halter : alter h (fun q => ((), some q)) s.slots with
  | none => cases ((ofHandle?_eq_none_iff h s).2 ((alter_none_iff h _ _).1 halter)).symm.trans hp
  | some out =>
    obtain ⟨before, q, after, hslots, hfirst, hq, -, -⟩ := alter_some halter
    obtain rfl : q = p := Option.some.inj ((ofHandle?_of_split hslots hfirst hq).symm.trans hp)
    exact ⟨before, after, free, hslots, hfirst, hq⟩

/-- Handles tell peers apart, so that each peer is the one that is found under its handle. -/
theorem WellFormed.exists_seat {a : Address} {capacity : Nat}
    (hw : WellFormed a capacity s.peers) (free : s.held = false) (hp : p ∈ s.peers) :
    ∃ before after, s.Seat p.handle before after p :=
  PeerStore.exists_seat free (hw.ofHandle?_eq_some_iff.2 ⟨hp, rfl⟩)

end PeerStore

/-! ## Attempts in a row -/

/-- The outcome of an attempt is noted against the medium that it used, with the speed that the
driver measured if it has sent the frame. -/
def Peer.note {V : Type} (p : Peer) (c : Attempt V) : Peer :=
  let q := p.updateStats c.media (·.recordSend c.ok)
  match c.ok, c.driver.speed? c.target c.after with
  | true, some speed => q.updateStats c.media fun s => { s with measuredSpeed := speed }
  | _, _ => q

/-- The call hands these bytes to one of these drivers, which carries them on a medium that the peer
and the node have in common, for the address of the peer. -/
structure Attempt.Routed {V : Type} (c : Attempt V) (drivers : List (Driver V)) (ours : MediaSet)
    (p : Peer) (bytes : Bytes) : Prop where
  content : c.bytes = bytes
  target : c.target = p.address
  driver : c.driver ∈ drivers
  carries : c.driver.carries c.media = true
  fits : bytes.length ≤ c.driver.maxFrame c.before
  spoken : p.media.contains c.media = true
  ours : ours.contains c.media = true
  answer : c.driver.send c.target c.media c.bytes c.before = (c.result, c.after)

/-- The counters after these calls. -/
def Counters.tried {V : Type} (c : Counters) (cs : List (Attempt V)) : Counters :=
  { c with
    sent := c.sent + cs.countP (·.ok)
    sendFailures := c.sendFailures + cs.countP (!·.ok) }

theorem Counters.tried_cons {V : Type} (k : Counters) (c : Attempt V) (cs : List (Attempt V)) :
    (k.tried [c]).tried cs = k.tried (c :: cs) := by
  cases hc : c.ok <;> simp [tried, hc] <;> omega

/-- A frame on its way to a peer: what stays the same from one attempt to the next. -/
structure Errand (V : Type) where
  wiring : Wiring V
  peer : Handle
  bytes : Bytes
  now : Micros
  usable : MediaSet

namespace Errand

variable {V : Type} (e : Errand V)

def pick (p : Peer) : Option Media × Peer :=
  p.select? e.wiring.profiles e.now e.bytes.length e.usable

theorem identity_pick (p : Peer) : (e.pick p).2.identity = p.identity :=
  PeerStore.identity_selectFrom ..

/-- The peer after an attempt, before which its media are scored. -/
def noted (p : Peer) (c : Attempt V) : Peer :=
  (e.pick p).2.note c

theorem identity_noted (p : Peer) (c : Attempt V) : (e.noted p c).identity = p.identity := by
  rw [← e.identity_pick p, noted, Peer.note]
  split <;> rfl

/-- Everything that a row of attempts can come to, with the calls that it makes. -/
inductive Tries : Nat → Peer → V → List (Attempt V) → Except Error Media → Peer → V → Prop
  | spent {p : Peer} {v : V} : Tries 0 p v [] (.error (.sendFail e.peer e.wiring.attempts)) p v
  | unmatched {n : Nat} {p : Peer} {v : V} (pick : (e.pick p).1 = none) :
      Tries (n + 1) p v [] (.error (.noMedia e.peer)) (e.pick p).2 v
  | uncarried {n : Nat} {p : Peer} {v : V} {m : Media} (pick : (e.pick p).1 = some m)
      (carrier : e.wiring.carrier? m e.bytes.length v = none) :
      Tries (n + 1) p v [] (.error (.noMedia e.peer)) (e.pick p).2 v
  | sent {n : Nat} {p : Peer} {v u : V} {m : Media} {driver : Driver V}
      (pick : (e.pick p).1 = some m)
      (carrier : e.wiring.carrier? m e.bytes.length v = some driver)
      (send : driver.send p.address m e.bytes v = (.ok (), u)) :
      Tries (n + 1) p v [⟨driver, p.address, m, e.bytes, .ok (), v, u⟩] (.ok m)
        (e.noted p ⟨driver, p.address, m, e.bytes, .ok (), v, u⟩) u
  | failed {n : Nat} {p q : Peer} {v u x : V} {m : Media} {driver : Driver V} {fault : LinkError}
      {cs : List (Attempt V)} {r : Except Error Media} (pick : (e.pick p).1 = some m)
      (carrier : e.wiring.carrier? m e.bytes.length v = some driver)
      (send : driver.send p.address m e.bytes v = (.error fault, u))
      (rest : Tries n (e.noted p ⟨driver, p.address, m, e.bytes, .error fault, v, u⟩) u cs r q x) :
      Tries (n + 1) p v (⟨driver, p.address, m, e.bytes, .error fault, v, u⟩ :: cs) r q x

/-! ## What a row of attempts comes to -/

variable {e} {n : Nat} {p q : Peer} {v u : V} {cs : List (Attempt V)} {r : Except Error Media}

theorem address_noted (p : Peer) (c : Attempt V) : (e.noted p c).address = p.address :=
  congrArg Identity.address (e.identity_noted p c)

theorem media_noted (p : Peer) (c : Attempt V) : (e.noted p c).media = p.media := by
  have hpick : (e.pick p).2.media = p.media := Peer.media_selectFrom
  rw [← hpick, noted, Peer.note]
  split <;> rfl

theorem measured_noted (hp : p.Measured) (c : Attempt V) : (e.noted p c).Measured := by
  have hpick : (e.pick p).2.Measured := (p.kept_selectFrom ..).measured hp
  have hsent := ((e.pick p).2.kept_updateStats c.media (·.recordSend c.ok)).measured hpick
  rw [noted, Peer.note]
  split
  · exact (Peer.kept_updateStats ..).measured hsent
  · exact hsent

theorem Tries.length_le (h : e.Tries n p v cs r q u) : cs.length ≤ n := by
  induction h with
  | failed _ _ _ _ ih => exact Nat.succ_le_succ ih
  | sent => exact Nat.succ_le_succ (Nat.zero_le _)
  | _ => exact Nat.zero_le _

theorem Tries.once (h : e.Tries n p v cs r q u) : cs.countP (·.ok) ≤ 1 := by
  induction h with
  | failed _ _ _ _ ih =>
    rw [List.countP_cons_of_neg (by simp [Attempt.ok, Except.isOk, Except.toBool])]
    exact ih
  | sent => exact Nat.le_refl 1
  | _ => exact Nat.zero_le 1

theorem Tries.stops (h : e.Tries n p v cs r q u) {before after : List (Attempt V)} {c : Attempt V}
    (hcs : cs = before ++ c :: after) (hok : c.ok = true) : after = [] := by
  induction h generalizing before with
  | spent | unmatched | uncarried => simp at hcs
  | sent =>
    cases before with
    | nil => exact (List.cons.inj hcs).2.symm
    | cons => simp at hcs
  | failed _ _ _ _ ih =>
    cases before with
    | nil =>
      obtain ⟨rfl, -⟩ := List.cons.inj hcs
      cases hok
    | cons _ before => exact ih (List.cons.inj hcs).2

theorem Tries.success (h : e.Tries n p v cs r q u) : ∀ c ∈ cs, c.ok = true → r = .ok c.media := by
  induction h with
  | spent | unmatched | uncarried => simp
  | sent => simp
  | failed _ _ _ _ ih =>
    rintro c (_ | ⟨_, hc⟩) hok
    · cases hok
    · exact ih c hc hok

theorem routed_of_pick {m : Media} {driver : Driver V} {result : Except LinkError Unit}
    (pick : (e.pick p).1 = some m)
    (carrier : e.wiring.carrier? m e.bytes.length v = some driver)
    (send : driver.send p.address m e.bytes v = (result, u)) :
    Attempt.Routed ⟨driver, p.address, m, e.bytes, result, v, u⟩ e.wiring.drivers e.usable p
      e.bytes := by
  obtain ⟨hspoken, hours⟩ := Peer.select?_mem pick
  have hcarries := List.find?_some carrier
  simp at hcarries
  exact ⟨rfl, rfl, List.mem_of_find?_eq_some carrier, hcarries.1, hcarries.2, hspoken, hours, send⟩

theorem Tries.routed (h : e.Tries n p v cs r q u) :
    ∀ c ∈ cs, c.Routed e.wiring.drivers e.usable p e.bytes := by
  induction h with
  | spent | unmatched | uncarried => simp
  | sent pick carrier send => simpa using routed_of_pick pick carrier send
  | failed pick carrier send _ ih =>
    rintro c (_ | ⟨_, hc⟩)
    · exact routed_of_pick pick carrier send
    · have hrouted := ih c hc
      have haddress := hrouted.target.trans (address_noted ..)
      have hspoken := hrouted.spoken
      rw [media_noted] at hspoken
      exact { hrouted with target := haddress, spoken := hspoken }

/-- While the drivers keep their limits, a peer with a medium in common gets the frame, or every
attempt is used up. -/
theorem Tries.concludes (h : e.Tries n p v cs r q u) (hp : p.Measured) {m : Media}
    (hm : p.media.contains m = true) (hu : e.usable.contains m = true)
    (hv : ∀ m, e.usable.contains m = true → (e.wiring.carrier? m e.bytes.length v).isSome = true)
    (hcs : ∀ c ∈ cs, ∀ m, e.usable.contains m = true →
      (e.wiring.carrier? m e.bytes.length c.after).isSome = true) :
    q = cs.foldl e.noted p ∧
      ((∃ c ∈ cs, c.ok = true) ∨
        r = .error (.sendFail e.peer e.wiring.attempts) ∧ cs.length = n ∧
          ∀ c ∈ cs, c.ok = false) := by
  induction h with
  | spent => exact ⟨rfl, .inr ⟨rfl, rfl, by simp⟩⟩
  | unmatched pick =>
    have hsome : (e.pick _).1.isSome = true := Peer.select?_isSome hp hm hu
    simp [pick] at hsome
  | uncarried pick carrier =>
    -- a medium is picked among those that a driver carries now
    have hsome := hv _ (Peer.select?_mem pick).2
    simp [carrier] at hsome
  | sent => exact ⟨rfl, .inl ⟨_, .head _, rfl⟩⟩
  | failed pick carrier send rest ih =>
    have hafter := hcs _ (.head _)
    obtain ⟨hq, hend⟩ := ih (measured_noted hp _) (by rwa [media_noted]) hafter
      fun c hc => hcs c (.tail _ hc)
    refine ⟨hq, ?_⟩
    rcases hend with ⟨c, hc, hok⟩ | ⟨hr, hlength, hall⟩
    · exact .inl ⟨c, .tail _ hc, hok⟩
    · refine .inr ⟨hr, congrArg Nat.succ hlength, ?_⟩
      rintro c (_ | ⟨_, hc⟩)
      · rfl
      · exact hall c hc

/-- A peer with no medium in common gets nothing. -/
theorem Tries.nowhere (h : e.Tries (n + 1) p v cs r q u)
    (hp : ∀ m, p.media.contains m = true → e.usable.contains m = false) :
    cs = [] ∧ r = .error (.noMedia e.peer) ∧ q = p ∧ u = v := by
  have hpick : e.pick p = (none, p) := Peer.select?_of_none hp
  cases h with
  | unmatched => exact ⟨rfl, rfl, by rw [hpick], rfl⟩
  | uncarried pick | sent pick | failed pick => simp [hpick] at pick

end Errand

namespace Dispatcher

open Act

variable {V : Type} (w : Wiring V)
variable {peer : Handle} {before after : List (Option Peer)} {p : Peer}
variable {d : Dispatcher (Watched V)}

theorem run_count {W : Type} (f : Counters → Counters) (d : Dispatcher W) :
    (count f).run d = (.ok (), { d with counters := f d.counters }) := rfl

theorem run_noteSent_seat (hs : d.peers.Seat peer before after p) (c : Attempt V)
    (hok : c.ok = true) (hworld : d.world.links = c.after) :
    (noteSent c.driver.watched peer c.target c.media).run d = (.ok (),
      { d with
        peers := d.peers.seating before after (p.note c)
        counters := d.counters.tried [c] }) := by
  have hspeed : c.driver.watched.speed? c.target d.world = c.driver.speed? c.target c.after := by
    rw [← hworld]
    rfl
  unfold noteSent
  rw [run_bind_ok (run_onPeers (hs.recordSend c.media true)), run_bind_ok (run_get _)]
  simp only [hspeed]
  cases hnote : c.driver.speed? c.target c.after with
  | none => simp [run_count, Peer.note, Counters.tried, hok, hnote]
  | some speed =>
    have hseat := hs.replace (q := p.updateStats c.media (·.recordSend true)) rfl
    simp [run_bind, onPeers, hseat.recordSpeed, run_count, Peer.note, Counters.tried, hok, hnote]

theorem run_noteFailed_seat (hs : d.peers.Seat peer before after p) (c : Attempt V)
    (hok : c.ok = false) :
    (noteFailed peer c.media).run d = (.ok (),
      { d with
        peers := d.peers.seating before after (p.note c)
        counters := d.counters.tried [c] }) := by
  unfold noteFailed
  rw [run_bind_ok (run_count _ d)]
  simp [onPeers, hs.recordSend, Peer.note, Counters.tried, hok]

theorem run_transmit_watched (driver : Driver V) (target : Address) (m : Media) (bytes : Bytes)
    {r : Except LinkError Unit} {u : V}
    (h : driver.send target m bytes d.world.links = (r, u)) :
    (transmit driver.watched target m bytes).run d = (.ok r,
      { d with
        world := ⟨u, d.world.calls ++ [⟨driver, target, m, bytes, r, d.world.links, u⟩]⟩ }) := by
  simp only [transmit, Driver.watched, Act.run, h]

/-- The dispatcher with this peer in its seat. -/
def seated (d : Dispatcher (Watched V)) (before after : List (Option Peer)) (q : Peer) :
    Dispatcher (Watched V) :=
  { d with peers := d.peers.seating before after q }

@[simp] theorem seated_world (q : Peer) : (d.seated before after q).world = d.world := rfl

/-- The dispatcher after these calls, which leave this peer and this world. -/
def tried (d : Dispatcher (Watched V)) (before after : List (Option Peer)) (q : Peer) (u : V)
    (cs : List (Attempt V)) : Dispatcher (Watched V) :=
  { d with
    peers := d.peers.seating before after q
    counters := d.counters.tried cs
    world := ⟨u, d.world.calls ++ cs⟩ }

theorem seated_eq_tried (q : Peer) :
    d.seated before after q = d.tried before after q d.world.links [] := by
  simp [seated, tried, Counters.tried]

theorem tried_nil (hs : d.peers.Seat peer before after p) :
    d.tried before after p d.world.links [] = d := by
  rw [← seated_eq_tried, seated, hs.seating_self]

theorem tried_tried (q q' : Peer) (u u' : V) (c : Attempt V) (cs : List (Attempt V)) :
    (d.tried before after q u [c]).tried before after q' u' cs =
      d.tried before after q' u' (c :: cs) := by
  simp [tried, Counters.tried_cons]

theorem run_pick (e : Errand V) (hs : d.peers.Seat e.peer before after p) :
    (onPeers (PeerStore.select e.wiring.watched.profiles e.now e.peer e.bytes.length
      e.usable)).run d = (.ok ((e.pick p).1, p.address), d.seated before after (e.pick p).2) :=
  run_onPeers (hs.withPeer _)

/-- What was sent, counted and noted by attempts in a row is what their record says. -/
theorem run_trySend_watched (e : Errand V) (n : Nat) (hs : d.peers.Seat e.peer before after p)
    (hnow : d.orchestrator.clock = e.now) :
    ∃ cs r q u,
      (trySend e.wiring.watched e.peer e.bytes e.usable n).run d =
        (r, d.tried before after q u cs) ∧ e.Tries n p d.world.links cs r q u := by
  induction n generalizing d p with
  | zero => exact ⟨[], _, p, _, by rw [tried_nil hs]; rfl, .spent⟩
  | succ n ih =>
    have hpicked := hs.replace (q := (e.pick p).2) (congrArg Identity.handle (e.identity_pick p))
    have hnothing :
        (fail (.noMedia e.peer) : Act _ Media).run (d.seated before after (e.pick p).2) =
          (.error (.noMedia e.peer), d.tried before after (e.pick p).2 d.world.links []) := by
      rw [run_fail, seated_eq_tried]
    unfold trySend
    rw [run_bind_ok (show now.run d = (.ok e.now, d) from hnow ▸ rfl), run_bind_ok (run_pick e hs)]
    cases hmedia : (e.pick p).1 with
    | none => exact ⟨[], _, _, _, hnothing, .unmatched hmedia⟩
    | some m =>
      simp only []
      rw [run_bind_ok (run_get _), Wiring.watched_carrier?, seated_world]
      cases hcarrier : e.wiring.carrier? m e.bytes.length d.world.links with
      | none =>
        simp only [Option.map_none]
        exact ⟨[], _, _, _, hnothing, .uncarried hmedia hcarrier⟩
      | some driver =>
        simp only [Option.map_some]
        rcases hsend : driver.send p.address m e.bytes d.world.links with ⟨fault | _, u⟩
        · let c : Attempt V := ⟨driver, p.address, m, e.bytes, .error fault, d.world.links, u⟩
          have hnote : (noteFailed e.peer m).run
              { d.seated before after (e.pick p).2 with world := ⟨u, d.world.calls ++ [c]⟩ } =
              (.ok (), d.tried before after (e.noted p c) u [c]) :=
            run_noteFailed_seat hpicked c rfl
          -- the peer keeps its seat, so that the next attempt finds it again
          have hseat : (d.tried before after (e.noted p c) u [c]).peers.Seat e.peer before after
              (e.noted p c) := hs.replace (congrArg Identity.handle (e.identity_noted p c))
          obtain ⟨cs, r, q, x, hrest, htries⟩ := ih hseat hnow
          refine ⟨c :: cs, r, q, x, ?_, .failed hmedia hcarrier hsend htries⟩
          have htransmit := run_transmit_watched (d := d.seated before after (e.pick p).2) driver
            p.address m e.bytes hsend
          rw [run_bind_ok htransmit, ← tried_tried]
          exact (run_bind_ok hnote).trans hrest
        · let c : Attempt V := ⟨driver, p.address, m, e.bytes, .ok (), d.world.links, u⟩
          have hnote : (noteSent driver.watched e.peer p.address m).run
              { d.seated before after (e.pick p).2 with world := ⟨u, d.world.calls ++ [c]⟩ } =
              (.ok (), d.tried before after (e.noted p c) u [c]) :=
            run_noteSent_seat hpicked c rfl rfl
          refine ⟨[c], .ok m, _, u, ?_, .sent hmedia hcarrier hsend⟩
          have htransmit := run_transmit_watched (d := d.seated before after (e.pick p).2) driver
            p.address m e.bytes hsend
          rw [run_bind_ok htransmit]
          exact run_bind_ok hnote

end Dispatcher

end Multilink
