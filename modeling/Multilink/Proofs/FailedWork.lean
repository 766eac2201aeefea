import Multilink.Proofs.TaskLimit
/-!
# Callbacks that fail

A callback that fails in a task of its own costs nothing but its item: the end of the task counts
the item and frees the place whatever comes of the callback. A callback that fails in the hands of
the scheduler takes the scheduler with it, and an item whose task cannot be spawned is never counted
as done. `Scheduler.contained_iff` tells them apart: the first is all that a run has seen if and only
if the queue still counts right and still goes on.
-/

namespace Multilink

/-- A move of the scheduler or of a task, where no callback fails in the hands of the scheduler and
every task can be spawned. -/
def Move.own {α : Type} : Move α → Bool
  | .advance | .workEnds false | .taskStep _ => true
  | _ => false

namespace Phase

variable {α : Type}

/-- Is an item that is in nobody's hands any more still to be taken off the count here? -/
def lands : Phase α → Bool
  | .abandoning | .landing => true
  | _ => false

/-- How many items are never counted as done. -/
def lost : Phase α → Nat
  | .crashed => 1
  | _ => 0

theorem lost_eq_zero {p : Phase α} (h : p ≠ .crashed) : p.lost = 0 := by
  cases p with
  | crashed => exact absurd rfl h
  | _ => rfl

end Phase

namespace Scheduler

open scoped List

variable {α : Type} {s t : Scheduler α} {es : List (Event α)} {settings : QueueSettings}
variable {a : α} {m : Move α} {c : Bool}

/-! ## What is counted -/

/-- The items that are in nobody's hands any more, and that are still to be taken off the count. -/
def landings (s : Scheduler α) : Nat :=
  (if s.phase.lands then 1 else 0) + s.tasks.countP (·.stage ≠ .working)

theorem length_tasks (ts : List (Task α)) :
    ts.length = (ts.filterMap Task.item?).length + ts.countP (·.stage ≠ .working) := by
  induction ts with
  | nil => rfl
  | cons x rest ih =>
    by_cases hx : x.stage = .working
    · simp [Task.item?, hx, ih]
      omega
    · simp [Task.item?, hx, ih]
      omega

theorem Counted.inFlight_eq (hc : Counted s) :
    s.queue.inFlight = s.inFlight.length + s.landings + s.phase.lost := by
  have htasks := length_tasks s.tasks
  have hphase : s.phase.load =
      s.phase.item?.toList.length + (if s.phase.lands then 1 else 0) + s.phase.lost := by
    cases s.phase <;> rfl
  rw [hc.inFlight, Scheduler.inFlight, landings, List.length_append]
  omega

theorem Turn.lost {p : Phase α} (h : Turn s p) : p.lost = s.phase.lost := by
  cases h with
  | givesUp place => rcases place with hp | hp | hp <;> simp [hp, Phase.lost]
  | _ => simp_all [Phase.lost]

theorem Change.processed (h : Change s es t) :
    t.queue.processed + t.phase.lost =
      s.queue.processed + s.phase.lost + (es.filterMap Event.ended?).length := by
  cases h with
  | turned turn => exact congrArg (s.queue.processed + ·) turn.lost
  | ended place =>
    simp [place, Phase.lost, Event.ended?, WorkQueue.countDone]
  | failed place => simp [place, Phase.lost, Event.ended?]
  | counted tasks =>
    simp [Event.ended?, WorkQueue.countDone]
    omega
  | dropped place => simp [place, Phase.lost, Event.ended?]
  | polled place | taken place | began place | spawned place | abandoned place | forgone place
    | cleared place =>
    simp [place, Phase.lost, Event.ended?, WorkQueue.beginTask, WorkQueue.freeTask, WorkQueue.land]
  | _ =>
    simp [Event.ended?, WorkQueue.setBlocked, WorkQueue.shutDown, WorkQueue.freeTask,
      WorkQueue.land]

theorem processed_run (s : Scheduler α) (moves : List (Move α)) :
    (s.run moves).1.queue.processed + (s.run moves).1.phase.lost =
      s.queue.processed + s.phase.lost + ((s.run moves).2.filterMap Event.ended?).length := by
  induction moves generalizing s with
  | nil => rfl
  | cons m rest ih =>
    have hstep := (change_step m s).processed
    have hrest := ih (s.step m).1
    simp only [run, List.filterMap_append, List.length_append]
    omega

/-! ## The scheduler goes on -/

/-- The scheduler and the tasks can go on by themselves until this item is taken out next. -/
def Comes (a : α) (s : Scheduler α) : Prop :=
  ∃ moves : List (Move α), (∀ m ∈ moves, m.own = true) ∧
    (s.run moves).2.filterMap Event.taken? = [a]

/-- This item is the next one of a queue that is not blocked, be it shut down or not. -/
structure Waits (settings : QueueSettings) (a : α) (c : Bool) (s : Scheduler α) : Prop where
  inv : Inv settings s
  shut : s.queue.closed = c
  free : s.queue.blocked = false
  first : ∃ rest, s.queue.items = a :: rest

theorem Waits.comes_of_step (hw : Waits settings a c s) (own : m.own = true)
    (h : s.step m = (t, es)) (silent : es.filterMap Event.taken? = [])
    (shut : t.queue.closed = s.queue.closed) (blocked : t.queue.blocked = s.queue.blocked)
    (items : t.queue.items = s.queue.items)
    (next : Waits settings a c t → Comes a t) : Comes a s := by
  have hw' : Waits settings a c t := by
    refine ⟨?_, shut.trans hw.shut, blocked.trans hw.free, items ▸ hw.first⟩
    simpa only [h] using hw.inv.effect (effect_step m s)
  obtain ⟨moves, hown, htaken⟩ := next hw'
  refine ⟨m :: moves, ?_, ?_⟩
  · rintro n (_ | ⟨_, hn⟩)
    · exact own
    · exact hown n hn
  · simp [run, h, silent, htaken]

theorem Waits.comes_taking (hw : Waits settings a c s) (hp : s.phase = .taking) : Comes a s := by
  obtain ⟨rest, hitems⟩ := hw.first
  refine ⟨[.advance], by simp [Move.own], ?_⟩
  simp [run, step, advance, hp, WorkQueue.take?, hitems, Event.taken?]

/-- The scheduler may have to wait for all the tasks. -/
theorem Waits.comes_slotWait (hw : Waits settings a c s) (hp : s.phase = .slotWait) :
    Comes a s := by
  obtain ⟨queue, phase, tasks, producers⟩ := s
  obtain rfl : phase = .slotWait := hp
  -- the first task can always go on, so that all of them can end while the scheduler waits
  induction tasks generalizing queue with
  | nil =>
    have hlimit : queue.atTaskLimit = false := by
      have hrunning : queue.running = 0 := hw.inv.busy
      simp [WorkQueue.atTaskLimit, hrunning]
      omega
    have hstep : step .advance ⟨queue, .slotWait, [], producers⟩ =
        (⟨queue, .taking, [], producers⟩, []) := by
      simp [step, advance, hlimit]
    exact hw.comes_of_step rfl hstep rfl rfl rfl rfl fun hw => hw.comes_taking rfl
  | cons x rest ih =>
    obtain ⟨b, stage⟩ := x
    have hfreed (q : WorkQueue α)
        (hw : Waits settings a c ⟨q, .slotWait, ⟨b, .freed⟩ :: rest, producers⟩) :
        Comes a ⟨q, .slotWait, ⟨b, .freed⟩ :: rest, producers⟩ :=
      hw.comes_of_step (m := .taskStep 0) rfl rfl rfl rfl rfl rfl (ih _)
    have hcounted (q : WorkQueue α)
        (hw : Waits settings a c ⟨q, .slotWait, ⟨b, .counted⟩ :: rest, producers⟩) :
        Comes a ⟨q, .slotWait, ⟨b, .counted⟩ :: rest, producers⟩ :=
      hw.comes_of_step (m := .taskStep 0) rfl rfl rfl rfl rfl rfl (hfreed _)
    cases stage with
    | freed => exact hfreed queue hw
    | counted => exact hcounted queue hw
    | working => exact hw.comes_of_step (m := .taskStep 0) rfl rfl rfl rfl rfl rfl (hcounted _)

theorem Waits.comes_blockTest (hw : Waits settings a c s) (hp : s.phase = .blockTest) :
    Comes a s := by
  have hstep : s.step .advance = ({ s with phase := .slotWait }, []) := by
    simp [step, advance, hp, hw.free]
  exact hw.comes_of_step rfl hstep rfl rfl rfl rfl fun hw => hw.comes_slotWait rfl

theorem Waits.comes_polling (hw : Waits settings a c s) (hp : s.phase = .polling) : Comes a s := by
  have hstep : s.step .advance = ({ s with
      queue := { s.queue with polls := s.queue.polls + 1 }
      phase := .blockTest }, []) := by
    simp [step, advance, hp]
  exact hw.comes_of_step rfl hstep rfl rfl rfl rfl fun hw => hw.comes_blockTest rfl

theorem Waits.comes_loopTest (hw : Waits settings a false s) (hp : s.phase = .loopTest) :
    Comes a s := by
  have hstep : s.step .advance = ({ s with phase := .polling }, []) := by
    simp [step, advance, hp, hw.shut]
  exact hw.comes_of_step rfl hstep rfl rfl rfl rfl fun hw => hw.comes_polling rfl

theorem Waits.comes_landing (hw : Waits settings a false s) (hp : s.phase = .landing) :
    Comes a s := by
  have hstep : s.step .advance = ({ s with queue := s.queue.land, phase := .loopTest }, []) := by
    simp [step, advance, hp]
  exact hw.comes_of_step rfl hstep rfl rfl rfl rfl fun hw => hw.comes_loopTest rfl

theorem Waits.comes_working {b : α} (hw : Waits settings a false s) (hp : s.phase = .working b) :
    Comes a s := by
  have hstep : s.step (.workEnds false) =
      ({ s with queue := s.queue.countDone, phase := .landing }, [.ended b]) := by
    simp [step, workEnds, hp]
  exact hw.comes_of_step rfl hstep rfl rfl rfl rfl fun hw => hw.comes_landing rfl

theorem Waits.comes_spawning {b : α} (hw : Waits settings a false s) (hp : s.phase = .spawning b) :
    Comes a s := by
  have hstep : s.step .advance =
      ({ s with tasks := s.tasks ++ [⟨b, .working⟩], phase := .loopTest }, []) := by
    simp [step, advance, hp]
  exact hw.comes_of_step rfl hstep rfl rfl rfl rfl fun hw => hw.comes_loopTest rfl

theorem Waits.comes_abandoning (hw : Waits settings a false s) (hp : s.phase = .abandoning) :
    Comes a s := by
  have hstep : s.step .advance = ({ s with queue := s.queue.freeTask, phase := .landing }, []) := by
    simp [step, advance, hp]
  exact hw.comes_of_step rfl hstep rfl rfl rfl rfl fun hw => hw.comes_landing rfl

theorem Waits.comes_dispatching {b : α} (hw : Waits settings a false s)
    (hp : s.phase = .dispatching b) : Comes a s := by
  cases hm : s.queue.settings.multitask with
  | true =>
    have hstep : s.step .advance =
        ({ s with queue := s.queue.beginTask, phase := .spawning b }, []) := by
      simp [step, advance, hp, hm]
    exact hw.comes_of_step rfl hstep rfl rfl rfl rfl fun hw => hw.comes_spawning rfl
  | false =>
    have hstep : s.step .advance = ({ s with phase := .working b }, []) := by
      simp [step, advance, hp, hm]
    exact hw.comes_of_step rfl hstep rfl rfl rfl rfl fun hw => hw.comes_working rfl

/-- The first item comes next as long as the scheduler has begun and not crashed. -/
theorem Waits.comes (hw : Waits settings a false s) (begun : s.phase ≠ .notStarted)
    (alive : s.phase ≠ .crashed) : Comes a s := by
  have hgoing : s.phase.ending = false := by
    by_contra h
    cases hw.shut.symm.trans (hw.inv.closed (by simpa using h))
  cases hp : s.phase with
  | notStarted => exact absurd hp begun
  | loopTest => exact hw.comes_loopTest hp
  | polling => exact hw.comes_polling hp
  | blockTest => exact hw.comes_blockTest hp
  | slotWait => exact hw.comes_slotWait hp
  | taking => exact hw.comes_taking hp
  | dispatching b => exact hw.comes_dispatching hp
  | spawning b => exact hw.comes_spawning hp
  | abandoning => exact hw.comes_abandoning hp
  | working b => exact hw.comes_working hp
  | landing => exact hw.comes_landing hp
  | draining | dropping | leaving | stopped =>
    rw [hp] at hgoing
    cases hgoing
  | crashed => exact absurd hp alive

/-! ## The scheduler is lost -/

theorem crashed_step (m : Move α) (s : Scheduler α) :
    (s.step m).1.phase = .crashed ↔
      s.phase = .crashed ∨ (m = .workEnds true ∧ ∃ a, s.phase = .working a) := by
  cases m with
  | workEnds panics => cases panics <;> cases hp : s.phase <;> simp [step, workEnds, hp]
  | advance => grind [step, advance]
  | enqueue a => grind [step, enqueue]
  | push i => grind [step, push]
  | pushContended i => grind [step, pushContended]
  | taskStep i => grind [step, taskStep]
  | _ => grind [step, advanceContended, spawnFails]

theorem Change.crashed (h : Change s es t) (hp : s.phase = .crashed) :
    t.phase = .crashed ∧ es.filterMap Event.taken? = [] := by
  cases h with
  | turned turn =>
    cases turn with
    | givesUp place => simp [hp] at place
    | _ => simp_all
  | polled | taken | began | spawned | abandoned | forgone | ended | failed | cleared | dropped =>
    simp_all
  | _ => exact ⟨hp, rfl⟩

theorem taken_of_crashed (hp : s.phase = .crashed) (moves : List (Move α)) :
    (s.run moves).2.filterMap Event.taken? = [] := by
  induction moves generalizing s with
  | nil => rfl
  | cons m rest ih =>
    obtain ⟨hp', hnone⟩ := (change_step m s).crashed hp
    simp [run, hnone, ih hp']

theorem Counted.single_of_crashed (hc : Counted s) (hp : s.phase = .crashed) :
    s.queue.settings.multitask = false := by
  by_contra hmulti
  have := hc.multi (by simpa using hmulti)
  simp [hp, Phase.alone] at this

theorem Counted.none_of_crashed (hc : Counted s) (hp : s.phase = .crashed) :
    s.inFlight = [] ∧ s.landings = 0 := by
  obtain ⟨htasks, -⟩ := hc.single (hc.single_of_crashed hp)
  constructor
  · rw [Scheduler.inFlight, hp, htasks]
    rfl
  · rw [landings, hp, htasks]
    rfl

theorem Counted.not_idle (hc : Counted s) (hp : s.phase = .crashed) : s.queue.idle = false := by
  have hflight := hc.inFlight
  simp only [hp, Phase.load] at hflight
  simp [WorkQueue.idle]
  omega

/-- A callback has failed in the hands of the scheduler. -/
def Uncaught (settings : QueueSettings) (moves : List (Move α)) : Prop :=
  settings.multitask = false ∧ ∃ before after a, moves = before ++ .workEnds true :: after ∧
    (run { queue := { settings } } before).1.phase = .working a

theorem uncaught_iff {moves : List (Move α)} (h : run { queue := { settings } } moves = (s, es)) :
    Uncaught settings moves ↔ s.phase = .crashed := by
  have hcrashed := run_iff (P := fun s => s.phase = .crashed) crashed_step { queue := { settings } } moves
  rw [h] at hcrashed
  obtain ⟨-, hinv, hcounted⟩ := reached h
  constructor
  · rintro ⟨-, before, after, a, hmoves, ha⟩
    exact hcrashed.2 (.inr ⟨before, _, after, hmoves, rfl, a, ha⟩)
  · intro hp
    rcases hcrashed.1 hp with hnew | ⟨before, _, after, hmoves, rfl, a, ha⟩
    · cases hnew
    · exact ⟨hinv.configured ▸ hcounted.single_of_crashed hp, before, after, a, hmoves, ha⟩

theorem Counted.none_abandoned (hc : Counted s) (h : Change s es t)
    (single : s.queue.settings.multitask = false) : es.filterMap Event.abandoned? = [] := by
  cases h with
  | abandoned place => cases single.symm.trans (hc.multi_of_tasks (.inr (by rw [place]; rfl)))
  | dropped => exact filterMap_dropped_none (fun _ => rfl) _
  | _ => rfl

/-- Where the scheduler does the work itself, no item is given up. -/
theorem none_abandoned_run (hi : Inv settings s) (hc : Counted s) (single : settings.multitask = false)
    (moves : List (Move α)) : (s.run moves).2.filterMap Event.abandoned? = [] := by
  induction moves generalizing s with
  | nil => rfl
  | cons m rest ih =>
    have hchange := change_step m s
    have hnone := hc.none_abandoned hchange (by rw [hi.configured, single])
    simp [run, hnone, ih (hi.effect hchange.effect) (hc.change hchange)]

/-! ## Contained failures -/

/-- What a failed callback leaves as it is: the counts, and the items behind its own. -/
structure Contained (s : Scheduler α) (es : List (Event α)) : Prop where
  /-- In flight are the items taken out whose callbacks have not ended. One that is in nobody's hands
  any more counts until it is taken off. -/
  inFlight : s.queue.inFlight + (es.filterMap Event.ended?).length =
    (es.filterMap Event.taken?).length + s.landings
  goesOn : s.phase ≠ .notStarted → s.queue.closed = false → s.queue.blocked = false →
    ∀ a rest, s.queue.items = a :: rest → Comes a s
  settled : s.queue.items = [] → s.inFlight = [] → s.landings = 0 →
    s.queue.idle = true ∧ s.queue.processed = (es.filterMap Event.taken?).length

/-- The counts of a run on a new queue, put together. -/
structure Tallied (s : Scheduler α) (es : List (Event α)) : Prop where
  inFlight : s.queue.inFlight = s.inFlight.length + s.landings + s.phase.lost
  taken : (es.filterMap Event.taken?).length =
    s.inFlight.length + ((es.filterMap Event.ended?).length + (es.filterMap Event.abandoned?).length)
  processed : s.queue.processed + s.phase.lost = (es.filterMap Event.ended?).length

theorem tallied {moves : List (Move α)} (h : run { queue := { settings } } moves = (s, es)) :
    Tallied s es := by
  obtain ⟨haccounts, hinv, hcounted⟩ := reached h
  refine ⟨hcounted.inFlight_eq, ?_, ?_⟩
  · simpa using haccounts.taken.length_eq
  · simpa [h, Phase.lost] using processed_run { queue := { settings } } moves

theorem Tallied.settled (ht : Tallied s es) (alive : s.phase ≠ .crashed) (empty : s.queue.items = [])
    (hands : s.inFlight = []) (landed : s.landings = 0) :
    s.queue.idle = true ∧ s.queue.processed + (es.filterMap Event.abandoned?).length =
      (es.filterMap Event.taken?).length := by
  obtain ⟨hflight, htaken, hprocessed⟩ := ht
  rw [hands, landed, Phase.lost_eq_zero alive] at hflight
  rw [hands] at htaken
  rw [Phase.lost_eq_zero alive] at hprocessed
  refine ⟨by simp [WorkQueue.idle, empty, hflight], ?_⟩
  rw [List.length_nil] at htaken
  omega

/-- Whichever callbacks fail, their failures are contained if and only if none is in the hands of
the scheduler, and no item is given up because its task cannot be spawned. After a failure in the
hands of the scheduler an item is missing from the count of those done, nothing is taken out any more,
and the queue never becomes idle. Each item that is given up is missing from that count. -/
theorem contained_iff {moves : List (Move α)} (h : run { queue := { settings } } moves = (s, es)) :
    (Contained s es ↔ ¬Uncaught settings moves ∧ es.filterMap Event.abandoned? = []) ∧
      (Uncaught settings moves →
        s.queue.processed + 1 = (es.filterMap Event.taken?).length ∧
          ∀ later, (s.run later).2.filterMap Event.taken? = [] ∧
            (s.run later).1.queue.idle = false) ∧
      (¬Uncaught settings moves → s.queue.items = [] → s.inFlight = [] → s.landings = 0 →
        s.queue.idle = true ∧ s.queue.processed + (es.filterMap Event.abandoned?).length =
          (es.filterMap Event.taken?).length) := by
  obtain ⟨-, hinv, hcounted⟩ := reached h
  have htallied := tallied h
  have hflight := htallied.inFlight
  have htaken := htallied.taken
  have hprocessed := htallied.processed
  have hsingle (hp : s.phase = .crashed) : es.filterMap Event.abandoned? = [] := by
    have hone : settings.multitask = false := hinv.configured ▸ hcounted.single_of_crashed hp
    simpa only [h] using none_abandoned_run (inv_new settings) (counted_new settings) hone moves
  rw [uncaught_iff h]
  refine ⟨⟨fun hcontained => ⟨fun hp => ?_, ?_⟩, fun ⟨hp, hnone⟩ => ⟨?_, ?_, ?_⟩⟩, fun hp => ?_,
    htallied.settled⟩
  · -- the lost item stays in flight, but nobody works on it
    have hsame := hcontained.inFlight
    rw [hsingle hp, List.length_nil] at htaken
    rw [hp, Phase.lost] at hflight
    omega
  · have hsame := hcontained.inFlight
    by_cases hp : s.phase = .crashed
    · exact hsingle hp
    · have hlost := Phase.lost_eq_zero hp
      rw [← List.length_eq_zero_iff]
      omega
  · have hlost := Phase.lost_eq_zero hp
    rw [hnone, List.length_nil] at htaken
    omega
  · intro begun opened free a rest hitems
    exact Waits.comes ⟨hinv, opened, free, rest, hitems⟩ begun hp
  · intro hitems hhands hlandings
    obtain ⟨hidle, hcount⟩ := htallied.settled hp hitems hhands hlandings
    rw [hnone] at hcount
    exact ⟨hidle, hcount⟩
  · obtain ⟨hhands, -⟩ := hcounted.none_of_crashed hp
    rw [hsingle hp, hhands, List.length_nil] at htaken
    rw [hp, Phase.lost] at hprocessed
    refine ⟨by omega, fun later => ⟨taken_of_crashed hp later, ?_⟩⟩
    have hp' := run_keeps (fun hp h => (Change.crashed h hp).1) hp later
    exact (hcounted.run later).not_idle hp'

/-- The second of two callbacks fails, and an item behind it is never taken out. -/
theorem lost_behind_failure :
    let round : List (Move Nat) := List.replicate 6 .advance
    let before := [.start, .enqueue 1, .push 0, .enqueue 2, .push 0, .enqueue 3, .push 0] ++ round ++
      [.workEnds false, .advance] ++ round
    let moves := before ++ [.workEnds true]
    let r := run { queue := { settings := {} } } moves
    Uncaught {} moves ∧ ¬Contained r.1 r.2 ∧ r.2.filterMap Event.taken? = [1, 2] ∧
      r.1.queue.processed = 1 ∧ r.1.queue.items = [3] ∧
      ∀ later, (r.1.run later).1.queue.idle = false := by
  intro round before moves r
  have hfails : Uncaught {} moves := ⟨rfl, before, [], 2, rfl, by decide⟩
  obtain ⟨hcontained, hlost, -⟩ := contained_iff (Prod.eta r).symm
  refine ⟨hfails, fun h => (hcontained.1 h).1 hfails, by decide, by decide, by decide, fun later => ?_⟩
  exact ((hlost hfails).2 later).2

end Scheduler

end Multilink
