import Multilink.Error
/-!
# Work queues

A first-in first-out queue of items for one scheduler. Items that have been taken out but are not
done are in flight. After a shutdown nothing is accepted any more; a blocked queue accepts items but
its scheduler takes none out.

This module holds what producers and callbacks do to a queue, one indivisible step each. The
scheduler that drives it is in `Multilink.WorkQueue.Scheduler`.
-/

namespace Multilink

/-- The settings of a work queue. -/
structure QueueSettings where
  name : String := "sdp-queue"
  /-- Does each item run as a task of its own? Otherwise they run one after the other. -/
  multitask : Bool := false
  /-- The most tasks that run at once; zero for no limit. -/
  maxTasks : Nat := 0
  /-- The most items that wait; zero for no limit. -/
  capacity : Nat := 0
  /-- How long a lock may take, in milliseconds. -/
  lockTimeoutMs : Nat := 5000
  /-- How long the scheduler waits when there is nothing to do, in milliseconds. -/
  idleWaitMs : Nat := 10
  deriving DecidableEq, Repr

/-- A work queue. -/
structure WorkQueue (α : Type) where
  settings : QueueSettings
  /-- The items that wait, first in first. -/
  items : List α := []
  /-- The number of running tasks. -/
  running : Nat := 0
  /-- The number of items taken out and not done. -/
  inFlight : Nat := 0
  /-- Does the scheduler leave the items alone? -/
  blocked : Bool := false
  /-- Has the queue been shut down? -/
  closed : Bool := false
  /-- The number of items that are done. -/
  processed : Nat := 0
  /-- The number of polls. -/
  polls : Nat := 0
  /-- The number of items refused. -/
  rejected : Nat := 0
  /-- The most tasks that ran at once. -/
  peakRunning : Nat := 0
  deriving Repr

namespace WorkQueue

variable {α : Type}

/-- Builds a queue. The callback that does the work is asked for first, then a lock timeout that is
not zero. -/
def build? (settings : QueueSettings) (hasWork : Bool) : Except QueueError (WorkQueue α) :=
  if !hasWork then .error (.initFail ("queue '" ++ settings.name ++ "' has no work callback"))
  else if settings.lockTimeoutMs = 0 then
    .error (.initFail ("queue '" ++ settings.name ++ "' lock timeout must be non-zero"))
  else .ok { settings }

/-- Is the queue at its capacity? -/
def full (q : WorkQueue α) : Bool :=
  0 < q.settings.capacity && q.settings.capacity ≤ q.items.length

/-- Do as many tasks run as may? -/
def atTaskLimit (q : WorkQueue α) : Bool :=
  q.settings.multitask && 0 < q.settings.maxTasks && q.settings.maxTasks ≤ q.running

/-- Puts an item at the end unless the queue is full, which counts as a refusal. The shutdown is not
looked at here: a producer does that before it asks for the lock. -/
def push (a : α) (q : WorkQueue α) : Except QueueError Unit × WorkQueue α :=
  if q.full then (.error .busy, { q with rejected := q.rejected + 1 })
  else (.ok (), { q with items := q.items ++ [a] })

/-- A whole call of a producer, when nothing comes in between. -/
def enqueue (a : α) (q : WorkQueue α) : Except QueueError Unit × WorkQueue α :=
  if q.closed then (.error .shutDown, { q with rejected := q.rejected + 1 })
  else q.push a

/-- Takes the first item out, which is in flight from then on. -/
def take? (q : WorkQueue α) : Option (α × WorkQueue α) :=
  match q.items with
  | [] => none
  | a :: rest => some (a, { q with items := rest, inFlight := q.inFlight + 1 })

/-- Counts a task that begins. -/
def beginTask (q : WorkQueue α) : WorkQueue α :=
  { q with running := q.running + 1, peakRunning := max q.peakRunning (q.running + 1) }

/-- Counts an item as done. -/
def countDone (q : WorkQueue α) : WorkQueue α :=
  { q with processed := q.processed + 1 }

/-- Frees the place of a task. -/
def freeTask (q : WorkQueue α) : WorkQueue α :=
  { q with running := q.running - 1 }

/-- Counts an item as no longer in flight. -/
def land (q : WorkQueue α) : WorkQueue α :=
  { q with inFlight := q.inFlight - 1 }

/-- Asks for a shutdown. -/
def shutDown (q : WorkQueue α) : WorkQueue α :=
  { q with closed := true }

/-- Tells the scheduler to leave the items alone, or not to. -/
def setBlocked (b : Bool) (q : WorkQueue α) : WorkQueue α :=
  { q with blocked := b }

/-- Is nothing waiting and nothing in flight? This is what waiting for an idle queue waits for. -/
def idle (q : WorkQueue α) : Bool :=
  q.items.isEmpty && q.inFlight == 0

end WorkQueue

end Multilink
