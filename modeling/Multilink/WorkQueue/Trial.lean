import Multilink.WorkQueue.Quiet
/-!
# Trials of a work queue

A trial watches a queue of numbers at work. An item may have to wait at a gate, which lets pass from
time to time all that wait there, and its callback may fail. The numbers whose callbacks ended well
are noted. After each step the queue runs until it is quiet.
-/

namespace Multilink

/-- An item of a trial. -/
structure TrialItem where
  /-- The number. -/
  value : Nat
  /-- Does it have to wait at the gate? -/
  gated : Bool := false
  /-- Does its callback fail? -/
  fails : Bool := false
  /-- Which item is it, counted over the trial? -/
  serial : Nat := 0
  deriving DecidableEq, Repr

/-- A queue on trial. -/
structure Trial where
  /-- The queue with its scheduler. -/
  scheduler : Scheduler TrialItem
  /-- What the poll callback will put in, an item for each poll. -/
  feed : List TrialItem := []
  /-- The numbers noted, first in first. -/
  done : List Nat := []
  /-- The items that the gate has let pass. -/
  released : List Nat := []
  /-- How many items there have been. -/
  serial : Nat := 0

namespace Trial

/-- How the items behave. -/
def behaviour (t : Trial) : Scheduler.Behaviour TrialItem where
  waits a := a.gated && !t.released.contains a.serial
  panics a := a.fails

/-- The number that an event notes. -/
def noted? : Event TrialItem → Option Nat
  | .ended a => if a.fails then none else some a.value
  | _ => none

/-- Runs the queue until it is quiet, if it has been started. -/
def settle (t : Trial) : Trial :=
  if t.scheduler.phase = .notStarted then t
  else
    let (scheduler, feed, events) := t.scheduler.settle t.behaviour t.feed
    { t with scheduler, feed, done := t.done ++ events.filterMap noted? }

/-- Makes a move. -/
def move (m : Move TrialItem) (t : Trial) : Trial :=
  { t with scheduler := (t.scheduler.step m).1 }.settle

/-- Puts an item in, if the queue takes it. -/
def enqueue (value : Nat) (gated fails : Bool) (t : Trial) : Except QueueError Unit × Trial :=
  let (scheduler, events) :=
    t.scheduler.offer { value, gated, fails, serial := t.serial }
  let result := match events with
    | [.refused _ e] => .error e
    | _ => .ok ()
  (result, { t with scheduler, serial := t.serial + 1 }.settle)

/-- Opens the gate for all that wait there, and tells how many they were. -/
def release (t : Trial) : Nat × Trial :=
  let waiting := t.scheduler.waiting t.behaviour
  (waiting.length, { t with released := waiting.map TrialItem.serial ++ t.released }.settle)

/-- Has the scheduler ended, if it was ever started? -/
def stopped? (t : Trial) : Option Bool :=
  match t.scheduler.phase with
  | .notStarted => none
  | .stopped | .crashed => some true
  | _ => some false

/-- Does whoever waits for the scheduler to end learn that it failed? A shutdown ends the wait first. -/
def failsToJoin (t : Trial) : Bool :=
  t.scheduler.phase = .crashed && !t.scheduler.queue.closed

/-- The numbers noted: in order, or sorted if tasks of their own may have changed the order. -/
def results (t : Trial) : List Nat :=
  if t.scheduler.queue.settings.multitask then t.done.mergeSort else t.done

end Trial

end Multilink
