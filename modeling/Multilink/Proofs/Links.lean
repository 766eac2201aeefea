import Multilink.Node
import Multilink.Proofs.BusCalls
import Multilink.Proofs.Passages
import Multilink.Proofs.TaskLimit
import Multilink.Proofs.Worlds
/-!
# The link of a node at work

`LinkSite.Step` lists what can happen to a node and its bus, seen from one link of the node: frames come
to the endpoint of the link, a poll takes them and offers them to the work queue one by one, the
scheduler of the link makes a move or hands a frame to the dispatcher, or anything else happens in
between. Each of these is a flow of frames through the link, `LinkSite.Step.flows`.
-/

namespace Multilink

/-! ## Frames that come to an endpoint -/

namespace Bus

variable {r i : EndpointId} {b c : Bus} {log : List Sending}

/-- From one bus to another these frames come to an endpoint, each by a send that succeeds, and no
frame leaves it. -/
inductive Feeds (r : EndpointId) : Bus → List Sending → Bus → Prop
  | quiet {b c : Bus} (same : c.waiting r = b.waiting r) : Feeds r b [] c
  | sent {b c : Bus} {i : EndpointId} {e : Endpoint} {target : Address} {media : Media} {bytes : Bytes}
      (sender : b.endpoint? i = some e) (run : b.send i target media bytes = (.ok (), c))
      (reached : b.destination? target media = some r) : Feeds r b [⟨i, e.frame bytes⟩] c
  | trans {b c d : Bus} {log log' : List Sending} :
      Feeds r b log c → Feeds r c log' d → Feeds r b (log ++ log') d

theorem Feeds.waiting (h : Feeds r b log c) : c.waiting r = b.waiting r ++ log.map (·.frame) := by
  induction h with
  | quiet same => rw [same, List.map_nil, List.append_nil]
  | @sent b c i e target media bytes sender run reached =>
    obtain ⟨error, hfailed, -⟩ | ⟨k, -, hk, hwaiting⟩ := send_waiting sender target media bytes
    · rw [run] at hfailed
      cases hfailed
    · cases reached.symm.trans hk
      rw [run] at hwaiting
      exact (hwaiting r).trans (by rw [if_pos rfl]; rfl)
  | trans _ _ ih ih' => rw [ih', ih, List.map_append, List.append_assoc]

/-- Whatever is sent, and whatever comes of it. -/
theorem exists_feeds_send (r i : EndpointId) (target : Address) (media : Media) (bytes : Bytes)
    (b : Bus) : ∃ log, Feeds r b log (b.send i target media bytes).2 := by
  cases he : b.endpoint? i with
  | none =>
    refine ⟨[], .quiet ?_⟩
    rw [send, he]
  | some e =>
    obtain ⟨error, -, hwaiting⟩ | ⟨k, hok, hk, hwaiting⟩ := send_waiting he target media bytes
    · exact ⟨[], .quiet (hwaiting r)⟩
    · by_cases hr : r = k
      · subst hr
        exact ⟨_, .sent he (Prod.ext hok rfl) hk⟩
      · refine ⟨[], .quiet ?_⟩
        rw [hwaiting r, if_neg hr, List.append_nil]

/-- Whatever is called on a bus, but for a poll of the endpoint. -/
theorem Step.exists_feeds {call : Call} {eff : Effect} (h : Step b call eff c)
    (hr : call ≠ .poll r) : ∃ log, Feeds r b log c := by
  have hpoll {i : EndpointId} {e : Endpoint} (live : b.Live i e) (hi : Call.poll i ≠ .poll r) :
      ∃ log, Feeds r b log (b.poll i).2 := by
    refine ⟨[], .quiet ?_⟩
    rw [waiting_poll live.1, if_neg fun h => hi (congrArg Call.poll h.symm)]
  cases h with
  | attach address media => exact ⟨[], .quiet (entry_attach address media b r).1⟩
  | detach address media => exact ⟨[], .quiet rfl⟩
  | @drop i e live =>
    let f (e : Endpoint) : Endpoint := { e with dropped := true }
    exact ⟨[], .quiet (waiting_update (f := f) (fun _ => rfl) i r b)⟩
  | @set i e faults live =>
    exact ⟨[], .quiet (waiting_update (f := Endpoint.set faults) (fun _ => rfl) i r b)⟩
  | @failed i e target media bytes error c live run | @arrived i k e target media bytes f c live run =>
    have hsend := exists_feeds_send r i target media bytes b
    rwa [run] at hsend
  | handed live up => exact hpoll live hr
  | lost live down => exact hpoll live hr

end Bus

/-- A driver on the bus sends by one of its endpoints, or does nothing. -/
theorem Outlet.send_driver (o : Outlet) (endpoints : List EndpointId) (target : Address) (m : Media)
    (bytes : Bytes) (b : Bus) :
    (∃ i, ((o.driver endpoints).send target m bytes b).2 = (b.send i target m bytes).2) ∨
      ((o.driver endpoints).send target m bytes b).2 = b := by
  have hbundle (links : List (EndpointId × Media)) :
      (∃ i, ((Bus.bundle links).send target m bytes b).2 = (b.send i target m bytes).2) ∨
        ((Bus.bundle links).send target m bytes b).2 = b := by
    simp only [Bus.bundle]
    split
    · exact .inl ⟨_, rfl⟩
    · exact .inr rfl
  unfold driver
  split
  · exact .inl ⟨_, rfl⟩
  · exact .inr rfl
  · exact hbundle _

/-- Whatever a station sends, and whatever its handler does. -/
theorem Station.within_feeds (plan : StationPlan) (attached : List (Outlet × List EndpointId))
    (r : EndpointId) :
    (wire plan attached).Within fun v v' => ∃ log, Bus.Feeds r v.bus log v'.bus where
  rest v := ⟨[], .quiet rfl⟩
  trans := by
    rintro u v x ⟨log, h⟩ ⟨log', h'⟩
    exact ⟨_, h.trans h'⟩
  driver d hd target m bytes v := by
    obtain ⟨⟨o, endpoints⟩, -, rfl⟩ := List.mem_map.1 hd
    show ∃ log, Bus.Feeds r v.bus log ((o.driver endpoints).send target m bytes v.bus).2
    obtain ⟨i, hi⟩ | hrest := o.send_driver endpoints target m bytes v.bus
    · rw [hi]
      exact Bus.exists_feeds_send r i target m bytes v.bus
    · rw [hrest]
      exact ⟨[], .quiet rfl⟩
  handler handle hhandle m v := by
    simp only [wire] at hhandle
    split at hhandle
    · cases hhandle
      exact ⟨[], .quiet rfl⟩
    · cases hhandle

/-! ## What can happen -/

/-- The move is made by the scheduler or by who blocks the queue or shuts it down. -/
def Move.isOwn {α : Type} : Move α → Bool
  | .enqueue _ | .push _ | .pushContended _ | .workEnds _ => false
  | _ => true

/-- The move blocks the queue, frees it or shuts it down. -/
def Move.isSwitch {α : Type} : Move α → Bool
  | .setBlocked _ | .shutDown => true
  | _ => false

/-- A whole call of a producer, with what it comes to and its events. Between its two moves others may
block the queue, free it or shut it down, and the lock may be contended. -/
inductive Scheduler.Offers {α : Type} (a : α) (q : Scheduler α) : Scheduler α × List (Event α) → Prop
  | pushed (between : List (Move α)) (switches : ∀ m ∈ between, m.isSwitch = true) :
      Offers a q (q.run (.enqueue a :: between ++ [.push q.producers.length]))
  | contended (between : List (Move α)) (switches : ∀ m ∈ between, m.isSwitch = true) :
      Offers a q (q.run (.enqueue a :: between ++ [.pushContended q.producers.length]))

/-- What an event of the queue means for a frame on its way. -/
def Happening.ofEvent? : Event Inbound → Option Happening
  | .refused f e => some (.met f (.refused e))
  | .dropped f => some (.met f .dropped)
  | _ => none

/-- What is fixed when a node is built. -/
structure Layout where
  wiring : Wiring Ether
  endpoints : List (List EndpointId)

namespace NodeSite

def layout (s : NodeSite) : Layout where
  wiring := s.node.station.wiring
  endpoints := s.node.intakes.map (·.endpoints)

/-- The dispatcher of the node, with the bus as part of its world. -/
def dispatcher (s : NodeSite) : Dispatcher Ether :=
  s.node.station.core.inWorld { bus := s.bus, alarms := s.node.station.core.world }

def moveIntake (k : Nat) (x : Intake) (m : Move Inbound) (s : NodeSite) : NodeSite :=
  s.setIntake k { x with scheduler := (x.scheduler.step m).1 }

end NodeSite

/-- A node with its bus, while a poll of one of its links may be under way. -/
structure LinkSite where
  site : NodeSite
  /-- The frames that the poll has taken and not yet offered to the queue. -/
  polled : List Inbound := []

namespace LinkSite

/-- Everything that can happen, seen from the link with endpoint `r`, which the work queue number `k`
polls. Its handlers do not fail. -/
inductive Step (k : Nat) (r : EndpointId) (s : LinkSite) : List Happening → LinkSite → Prop
  /-- Frames come to the endpoint, and whatever else happens around the link. -/
  | around {t : NodeSite} {log : List Sending} (feeds : Bus.Feeds r s.site.bus log t.bus)
      (same : t.node.intakes[k]? = s.site.node.intakes[k]?) (fixed : t.layout = s.site.layout) :
      Step k r s (log.map .came) { s with site := t }
  /-- The scheduler does not go on before its poll is over. -/
  | moved {x : Intake} {m : Move Inbound} (here : s.site.node.intakes[k]? = some x)
      (own : m.isOwn = true) (idle : m = .advance → x.scheduler.phase = .polling → s.polled = []) :
      Step k r s ((x.scheduler.step m).2.filterMap Happening.ofEvent?)
        { s with site := s.site.moveIntake k x m }
  | polled {x : Intake} {e : Endpoint} (here : s.site.node.intakes[k]? = some x)
      (polling : x.scheduler.phase = .polling) (idle : s.polled = [])
      (link : s.site.bus.endpoint? r = some e) :
      Step k r s (if e.linkDown then e.pending.map (.met · .lost) else [])
        { site := { s.site with bus := (s.site.bus.poll r).2 }, polled := (s.site.bus.poll r).1 }
  /-- The lock of the queue may be contended. -/
  | offered {x : Intake} {f : Inbound} {rest : List Inbound}
      {o : Scheduler Inbound × List (Event Inbound)} (here : s.site.node.intakes[k]? = some x)
      (polling : x.scheduler.phase = .polling) (next : s.polled = f :: rest)
      (offer : x.scheduler.Offers f o) :
      Step k r s (o.2.filterMap Happening.ofEvent?)
        { site := s.site.setIntake k { x with scheduler := o.1 }, polled := rest }
  /-- The dispatcher handles a frame, and may send others. -/
  | handled {x : Intake} {f : Inbound} {a : Dispatcher.Arrival} {u : Dispatcher Ether}
      {log : List Sending} (here : s.site.node.intakes[k]? = some x)
      (working : x.scheduler.phase = .working f)
      (run : (Dispatcher.receive s.site.node.station.wiring f).run s.site.dispatcher = (a.result, u))
      (items : u.queue.items = s.site.dispatcher.queue.items ++ a.items)
      (feeds : Bus.Feeds r s.site.bus log u.world.bus) :
      Step k r s (.met f (.handled a) :: log.map .came) { s with site := s.site.intakeStep k }

abbrev Run (k : Nat) (r : EndpointId) (start : LinkSite) : List Happening → LinkSite → Prop :=
  Logged (Step k r) start

/-! ## The work queue of the link -/

variable {k : Nat} {r : EndpointId} {s t : LinkSite} {x : Intake} {es : List Happening}
  {settings : QueueSettings}

/-- The work queue of the link, as every run leaves it. -/
structure Linked (settings : QueueSettings) (k : Nat) (s : NodeSite) (x : Intake) : Prop where
  here : s.node.intakes[k]? = some x
  inv : Scheduler.Inv settings x.scheduler
  counted : Scheduler.Counted x.scheduler

theorem getElem?_setIntake {s : NodeSite} (here : s.node.intakes[k]? = some x) (y : Intake) :
    (s.setIntake k y).node.intakes[k]? = some y := by
  obtain ⟨hk, -⟩ := List.getElem?_eq_some_iff.1 here
  exact List.getElem?_set_self hk

theorem Linked.move {s : NodeSite} (h : Linked settings k s x) (m : Move Inbound) :
    Linked settings k (s.moveIntake k x m) { x with scheduler := (x.scheduler.step m).1 } where
  here := getElem?_setIntake h.here _
  inv := h.inv.effect (Scheduler.effect_step m x.scheduler)
  counted := h.counted.change (Scheduler.change_step m x.scheduler)

theorem Linked.runs {s : NodeSite} (h : Linked settings k s x) (moves : List (Move Inbound)) :
    Linked settings k (s.setIntake k { x with scheduler := (x.scheduler.run moves).1 })
      { x with scheduler := (x.scheduler.run moves).1 } where
  here := getElem?_setIntake h.here _
  inv := h.inv.run moves
  counted := h.counted.run moves

theorem Linked.offers {s : NodeSite} {f : Inbound} {o : Scheduler Inbound × List (Event Inbound)}
    (h : Linked settings k s x) (offer : x.scheduler.Offers f o) :
    Linked settings k (s.setIntake k { x with scheduler := o.1 }) { x with scheduler := o.1 } := by
  cases offer <;> exact h.runs _

theorem Linked.no_tasks {s : NodeSite} (h : Linked settings k s x)
    (single : settings.multitask = false) :
    x.scheduler.tasks = [] ∧ x.scheduler.phase.begins = false :=
  h.counted.single (h.inv.configured ▸ single)

end LinkSite

/-! ## The flow of frames -/

namespace Scheduler

variable {q : Scheduler Inbound} {m : Move Inbound} {link poll rest : List Inbound} {f : Inbound}
  {log : List Happening}

/-- The frames on their way through a link, with those that the queue and its scheduler have. -/
def pipe (link poll : List Inbound) (q : Scheduler Inbound) : Pipe where
  link := link
  poll := poll
  queue := q.queue.items
  hand := q.phase.item?.toList
  stopped := q.phase.swept

/-- A scheduler without tasks takes items out and drops them of its own accord, and nothing else. -/
theorem own_events (own : m.isOwn = true) (hsingle : q.tasks = [] ∧ q.phase.begins = false) :
    ∀ e ∈ (q.step m).2, (∃ f, e = .taken f) ∨ ∃ f, e = .dropped f := by
  obtain ⟨htasks, hbegins⟩ := hsingle
  cases m with
  | enqueue | push | pushContended | workEnds => cases own
  | setBlocked | shutDown => nofun
  | start => grind [step]
  | advance => grind [step, advance]
  | advanceContended => grind [step, advanceContended]
  | spawnFails => grind [step, spawnFails, Phase.begins]
  | taskStep i => simp [step, taskStep, htasks]

theorem flows_own (own : m.isOwn = true) (hsingle : q.tasks = [] ∧ q.phase.begins = false)
    (hsingle' : (q.step m).1.tasks = [] ∧ (q.step m).1.phase.begins = false)
    (h : Pipe.Run log (q.pipe link poll)) :
    Pipe.Run (log ++ (q.step m).2.filterMap Happening.ofEvent?) ((q.step m).1.pipe link poll) := by
  have heffect := effect_step m q
  have hevents := own_events own hsingle
  obtain ⟨htasks, hbegins⟩ := hsingle
  obtain ⟨htasks', hbegins'⟩ := hsingle'
  generalize q.step m = o at heffect hevents htasks' hbegins' ⊢
  obtain ⟨q', es⟩ := o
  cases heffect with
  | moved alike item places ending drained swept =>
    rw [List.filterMap_nil, List.append_nil, pipe]
    simp only [alike.items, item, swept]
    exact h
  | @taken f rest taking first =>
    have hfree : (q.pipe link poll).hand = [] := by simp [pipe, taking, Phase.item?]
    have hrun := h.snoc (.taken hfree first)
    rw [show [Event.taken f].filterMap Happening.ofEvent? = [] from rfl]
    simpa [pipe, taking, Phase.item?, Phase.swept] using hrun
  | dropped dropping =>
    have hrunning : (q.pipe link poll).stopped = false := by simp [pipe, dropping, Phase.swept]
    have hrun := h.snoc (.stopped hrunning)
    have hdropped : (q.queue.items.map Event.dropped).filterMap Happening.ofEvent? =
        q.queue.items.map (.met · .dropped) := by
      rw [List.filterMap_map]
      exact congrFun List.filterMap_eq_map q.queue.items
    rw [hdropped]
    simpa [pipe, dropping, Phase.item?, Phase.swept] using hrun
  | accepted | refused | abandoned | ended | counted => simp at hevents
  | began => cases hbegins'
  | spawned spawning => simp [spawning, Phase.begins] at hbegins
  | forgone abandoning => simp [abandoning, Phase.begins] at hbegins
  | freed tasks | landed tasks => simp [tasks] at htasks

/-- Those who block a queue, free it or shut it down change nothing else. -/
theorem run_switches {between : List (Move Inbound)} (h : ∀ m ∈ between, m.isSwitch = true)
    (q : Scheduler Inbound) : ∃ b c,
      q.run between = ({ q with queue := { q.queue with blocked := b, closed := c } }, []) := by
  induction between generalizing q with
  | nil => exact ⟨q.queue.blocked, q.queue.closed, rfl⟩
  | cons m rest ih =>
    have hrest := ih fun n hn => h n (.tail m hn)
    have hm := h m (.head rest)
    cases m with
    | setBlocked b =>
      obtain ⟨b', c, hrun⟩ := hrest { q with queue := q.queue.setBlocked b }
      exact ⟨b', c, by simp only [run, step, hrun]; rfl⟩
    | shutDown =>
      obtain ⟨b', c, hrun⟩ := hrest { q with queue := q.queue.shutDown }
      exact ⟨b', c, by simp only [run, step, hrun]; rfl⟩
    | _ => cases hm

/-- A call looks at the queue, others switch it, and the call ends. -/
theorem run_call {between : List (Move Inbound)} (h : ∀ m ∈ between, m.isSwitch = true)
    (last : Move Inbound) {r : Scheduler Inbound} {es : List (Event Inbound)}
    (hlook : q.step (.enqueue f) = (r, es)) : ∃ b c,
      let t := { r with queue := { r.queue with blocked := b, closed := c } }
      q.run (.enqueue f :: between ++ [last]) = ((t.step last).1, es ++ (t.step last).2) := by
  obtain ⟨b, c, hrun⟩ := run_switches h r
  exact ⟨b, c, by simp [run, run_append, hlook, hrun]⟩

/-- A whole call puts its item in, or refuses it. -/
theorem Offers.cases {o : Scheduler Inbound × List (Event Inbound)} (h : q.Offers f o) :
    o.1.phase = q.phase ∧
      ((∃ e, o.2 = [.refused f e] ∧ o.1.queue.items = q.queue.items) ∨
        (o.2 = [.accepted f] ∧ o.1.queue.items = q.queue.items ++ [f])) := by
  cases hc : q.queue.closed with
  | true =>
    have hlook : q.step (.enqueue f) =
        ({ q with queue := { q.queue with rejected := q.queue.rejected + 1 } },
          [.refused f .shutDown]) := by
      simp [step, enqueue, hc]
    cases h with
    | pushed _ switches | contended _ switches =>
      obtain ⟨b, c, hrun⟩ := run_call switches _ hlook
      rw [hrun]
      simp [step, push, pushContended]
  | false =>
    have hlook : q.step (.enqueue f) = ({ q with producers := q.producers ++ [f] }, []) := by
      simp [step, enqueue, hc]
    cases h with
    | pushed _ switches =>
      obtain ⟨b, c, hrun⟩ := run_call switches _ hlook
      rw [hrun]
      rcases push_cases f { q.queue with blocked := b, closed := c } with ⟨-, hpush⟩ | ⟨-, hpush⟩ <;>
        simp [step, push, hpush]
    | contended _ switches =>
      obtain ⟨b, c, hrun⟩ := run_call switches _ hlook
      rw [hrun]
      simp [step, pushContended]

theorem flows_offer {o : Scheduler Inbound × List (Event Inbound)} (offer : q.Offers f o)
    (h : Pipe.Run log (q.pipe link (f :: rest))) :
    Pipe.Run (log ++ o.2.filterMap Happening.ofEvent?) (o.1.pipe link rest) := by
  obtain ⟨hphase, ⟨e, hevents, hitems⟩ | ⟨hevents, hitems⟩⟩ := offer.cases
  · rw [hevents, pipe, hphase, hitems]
    exact h.snoc (.refused rfl)
  · rw [hevents, pipe, hphase, hitems]
    exact h.snoc (.accepted rfl)

theorem flows_handled {a : Dispatcher.Arrival} (working : q.phase = .working f)
    (h : Pipe.Run log (q.pipe link poll)) :
    Pipe.Run (log ++ [.met f (.handled a)]) ((q.step (.workEnds false)).1.pipe link poll) := by
  have hhand : (q.pipe link poll).hand = [f] := by simp [pipe, working, Phase.item?]
  have hrun := h.snoc (.handled (a := a) hhand)
  simpa [pipe, step, workEnds, working, Phase.item?, Phase.swept, WorkQueue.countDone] using hrun

end Scheduler

namespace NodeSite

variable {s : NodeSite} {k : Nat} {x : Intake}

theorem layout_setIntake (here : s.node.intakes[k]? = some x) {y : Intake}
    (hy : y.endpoints = x.endpoints) : (s.setIntake k y).layout = s.layout := by
  obtain ⟨hk, rfl⟩ := List.getElem?_eq_some_iff.1 here
  refine congrArg (Layout.mk s.node.station.wiring) ?_
  show (s.node.intakes.set k y).map (·.endpoints) = s.node.intakes.map (·.endpoints)
  rw [List.map_set, hy, ← List.getElem_map (fun x : Intake => x.endpoints) (h := by simpa using hk)]
  exact List.set_getElem_self _

theorem layout_moveIntake (here : s.node.intakes[k]? = some x) (m : Move Inbound) :
    (s.moveIntake k x m).layout = s.layout :=
  layout_setIntake here rfl

def withDispatcher (d : Dispatcher Ether) (s : NodeSite) : NodeSite where
  node := { s.node with
    station := { s.node.station with core := d.inWorld d.world.alarms } }
  bus := d.world.bus

theorem intakeStep_working {f : Inbound} (here : s.node.intakes[k]? = some x)
    (working : x.scheduler.phase = .working f) :
    s.intakeStep k = (s.withDispatcher
      ((Dispatcher.receive s.node.station.wiring f).run s.dispatcher).2).moveIntake k x
        (.workEnds false) := by
  unfold intakeStep
  simp only [here, working]
  rfl

end NodeSite

namespace Dispatcher

open Act

variable {W : Type} {w : Wiring W} {d u : Dispatcher W}

/-- A frame that is handled puts its message into the application queue, unless it ends in an error or
its kind is not for the application. -/
inductive Yields (f : Inbound) : Arrival → Prop
  | queued {m : Message} (peer : Handle) (read : Frame.parse? f.bytes = .ok m)
      (kind : m.kind.filterable = true) :
      Yields f ⟨.ok (), [{ m with media := some f.media, peer := some peer }]⟩
  | failed (e : Error) : Yields f ⟨.error e, []⟩
  | unqueued {m : Message} (read : Frame.parse? f.bytes = .ok m) (kind : m.kind.filterable = false) :
      Yields f ⟨.ok (), []⟩

theorem yields_receive {f : Inbound} {a : Arrival} (run : (receive w f).run d = (a.result, u))
    (items : u.queue.items = d.queue.items ++ a.items) : Yields f a := by
  have hinflow := (inflow_receive w f d).inflow
  rw [run] at hinflow
  -- the outcome decides what was put in
  have hdelivered : a.items = delivered f d a.result :=
    List.append_cancel_left (items.symm.trans (congrArg Inflow.items hinflow))
  obtain ⟨result, put⟩ := a
  rw [show put = delivered f d result from hdelivered]
  cases result with
  | error e =>
    rw [delivered_error]
    exact .failed e
  | ok _ =>
    cases hread : Frame.parse? f.bytes with
    | error e =>
      have hfailed := receive_fst w f d
      rw [run, run_route_unreadable w hread] at hfailed
      cases hfailed
    | ok m =>
      simp only [delivered, hread, accepted]
      cases hkind : m.kind.filterable with
      | true => exact .queued _ hread hkind
      | false => exact .unqueued hread hkind

end Dispatcher

namespace LinkSite

/-- Whatever happens, the layout of the node stays, and so does what its runs leave of the work queue;
for the frames it is a flow through the link. -/
theorem Step.flows (h : Step k r s es t) (single : settings.multitask = false)
    (hl : Linked settings k s.site x) :
    t.site.layout = s.site.layout ∧ ∃ y, Linked settings k t.site y ∧
      ∀ log, Pipe.Run log (x.scheduler.pipe (s.site.bus.waiting r) s.polled) →
        Pipe.Run (log ++ es) (y.scheduler.pipe (t.site.bus.waiting r) t.polled) := by
  -- without tasks nothing but the scheduler has a frame in its hands
  have hsingle := hl.no_tasks single
  cases h with
  | around feeds same fixed =>
    refine ⟨fixed, x, ⟨same.trans hl.here, hl.inv, hl.counted⟩, fun log hrun => ?_⟩
    rw [feeds.waiting]
    exact hrun.snoc (.came _)
  | @moved y m here own idle =>
    obtain rfl := Option.some.inj (here.symm.trans hl.here)
    have hmoved := hl.move m
    refine ⟨NodeSite.layout_moveIntake here m, _, hmoved, fun log hrun => ?_⟩
    exact Scheduler.flows_own own hsingle (hmoved.no_tasks single) hrun
  | @polled y e here polling idle link =>
    obtain rfl := Option.some.inj (here.symm.trans hl.here)
    refine ⟨rfl, y, ⟨here, hl.inv, hl.counted⟩, fun log hrun => ?_⟩
    have hwaiting := Bus.waiting_poll link r
    rw [if_pos rfl] at hwaiting
    rw [idle, Bus.waiting_eq link] at hrun
    rw [hwaiting, Bus.poll_eq link]
    cases e.linkDown with
    | false => exact hrun.snoc (.polled rfl)
    | true => exact hrun.snoc (.lost rfl)
  | @offered y f rest o here polling next offer =>
    obtain rfl := Option.some.inj (here.symm.trans hl.here)
    refine ⟨NodeSite.layout_setIntake here rfl, _, hl.offers offer, fun log hrun => ?_⟩
    rw [next] at hrun
    exact Scheduler.flows_offer offer hrun
  | @handled y f a u log' here working run items feeds =>
    obtain rfl := Option.some.inj (here.symm.trans hl.here)
    rw [NodeSite.intakeStep_working here working, run]
    let v := s.site.withDispatcher u
    have hlinked : Linked settings k v y := ⟨here, hl.inv, hl.counted⟩
    refine ⟨(NodeSite.layout_moveIntake (s := v) here _).trans rfl, _, hlinked.move (.workEnds false),
      fun log hrun => ?_⟩
    have hwaiting : (v.moveIntake k y (.workEnds false)).bus.waiting r =
        s.site.bus.waiting r ++ log'.map (·.frame) := feeds.waiting
    have hhandled := Scheduler.flows_handled (a := a) working hrun
    rw [hwaiting, ← List.singleton_append, ← List.append_assoc]
    exact hhandled.snoc (.came log')

/-- The scheduler hands its frame to the dispatcher, with what this comes to. -/
theorem Step.of_receive {f : Inbound} {a : Dispatcher.Arrival} {log : List Sending}
    {o : Except Error Unit × Dispatcher Ether} (here : s.site.node.intakes[k]? = some x)
    (working : x.scheduler.phase = .working f)
    (run : (Dispatcher.receive s.site.node.station.wiring f).run s.site.dispatcher = o)
    (result : o.1 = a.result) (items : o.2.queue.items = s.site.dispatcher.queue.items ++ a.items)
    (feeds : Bus.Feeds r s.site.bus log o.2.world.bus) :
    Step k r s (.met f (.handled a) :: log.map .came) { s with site := s.site.intakeStep k } :=
  .handled here working (run.trans (Prod.ext result rfl)) items feeds

/-- The dispatcher handles frames by what is in them. -/
theorem Step.yields (h : Step k r s es t) {f : Inbound} {a : Dispatcher.Arrival}
    (hmem : .met f (.handled a) ∈ es) : Dispatcher.Yields f a := by
  cases h with
  | around => simp at hmem
  | moved | offered =>
    obtain ⟨e, -, he⟩ := List.mem_filterMap.1 hmem
    cases e <;> cases he
  | polled => split at hmem <;> simp at hmem
  | @handled _ _ _ _ _ _ _ run items _ =>
    obtain heq | hmem := List.mem_cons.1 hmem
    · cases heq
      exact Dispatcher.yields_receive run items
    · simp at hmem

/-- What a run has made of a link on which nothing was on its way. -/
structure Reached (settings : QueueSettings) (k : Nat) (r : EndpointId) (layout : Layout)
    (log : List Happening) (s : LinkSite) : Prop where
  layout : s.site.layout = layout
  linked : ∃ x, Linked settings k s.site x ∧
    Pipe.Run log (x.scheduler.pipe (s.site.bus.waiting r) s.polled)
  yields : ∀ f a, .met f (.handled a) ∈ log → Dispatcher.Yields f a

theorem Reached.step {layout : Layout} {log : List Happening} (single : settings.multitask = false)
    (h : Reached settings k r layout log s) (hs : Step k r s es t) :
    Reached settings k r layout (log ++ es) t := by
  obtain ⟨x, hlinked, hrun⟩ := h.linked
  obtain ⟨hfixed, y, hlinked', hflows⟩ := hs.flows single hlinked
  refine ⟨hfixed.trans h.layout, ⟨y, hlinked', hflows log hrun⟩, fun f a hmem => ?_⟩
  obtain hmem | hmem := List.mem_append.1 hmem
  · exact h.yields f a hmem
  · exact hs.yields hmem

theorem Run.reached {layout : Layout} {log log' : List Happening} (single : settings.multitask = false)
    (h : Reached settings k r layout log s) (hr : Run k r s log' t) :
    Reached settings k r layout (log ++ log') t := by
  induction hr with
  | nil => rwa [List.append_nil]
  | snoc _ hstep ih =>
    rw [← List.append_assoc]
    exact ih.step single hstep

end LinkSite

end Multilink
