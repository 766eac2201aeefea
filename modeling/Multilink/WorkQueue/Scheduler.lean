import Multilink.WorkQueue.Basic
/-!
# The scheduler of a work queue

One scheduler drives a queue in rounds: look whether it is shut down, poll, look whether it is
blocked, wait for a free task, take one item out and work on it. Work is done by the scheduler
itself, or by a task for each item, if one can be spawned. After a shutdown the scheduler waits for
its tasks, drops what still waits, and returns.

`Scheduler.step` makes one move. Between any two moves of the scheduler others may come: producers
and the poll callback put items in, anyone blocks or shuts down, tasks end. A producer makes two
moves, as it looks for a shutdown before it asks for the lock, and does not look again. The events
of a move say what became of items.
-/

namespace Multilink

/-- Where a scheduler stands. -/
inductive Phase (α : Type) where
  | notStarted
  /-- About to look whether the queue is shut down. -/
  | loopTest
  | polling
  /-- About to look whether the queue is blocked. -/
  | blockTest
  /-- About to look for a free task. -/
  | slotWait
  /-- About to take an item out. -/
  | taking
  /-- Has taken an item out. -/
  | dispatching (a : α)
  /-- Has counted the task of an item, and is about to spawn it. -/
  | spawning (a : α)
  /-- Could not spawn a task. Its place is still taken. -/
  | abandoning
  /-- Working on an item itself. -/
  | working (a : α)
  /-- Done with an item that is still in flight. -/
  | landing
  /-- Waiting for the tasks to end. -/
  | draining
  /-- Has seen that no task runs, and is about to drop what still waits. -/
  | dropping
  /-- Has dropped what still waited, and is about to return. -/
  | leaving
  | stopped
  /-- Ended by a callback that failed. -/
  | crashed
  deriving DecidableEq, Repr

/-- How far a task is. -/
inductive TaskStage where
  /-- In its callback. -/
  | working
  /-- Counted as done. -/
  | counted
  /-- Its place is free again. -/
  | freed
  deriving DecidableEq, Repr

/-- A task of its own for one item. -/
structure Task (α : Type) where
  item : α
  /-- How far it is. -/
  stage : TaskStage := .working
  deriving DecidableEq, Repr

/-- A queue with its scheduler, tasks and producers. -/
structure Scheduler (α : Type) where
  queue : WorkQueue α
  /-- Where the scheduler stands. -/
  phase : Phase α := .notStarted
  /-- The tasks that have not ended. -/
  tasks : List (Task α) := []
  /-- The items of producers that have found the queue open and do not have its lock yet. -/
  producers : List α := []
  deriving Repr

/-- One move. -/
inductive Move (α : Type) where
  /-- A producer or the poll callback wants to put an item in, and looks for a shutdown. -/
  | enqueue (a : α)
  /-- A producer that has found the queue open gets the lock. -/
  | push (index : Nat)
  /-- A producer that has found the queue open does not get the lock in time. -/
  | pushContended (index : Nat)
  /-- Somebody blocks the queue or frees it. -/
  | setBlocked (b : Bool)
  /-- Somebody shuts the queue down. -/
  | shutDown
  /-- The scheduler starts. -/
  | start
  /-- The scheduler makes its next step, unless it waits. -/
  | advance
  /-- The scheduler does not get a lock in time, that of the task count or that of the items. -/
  | advanceContended
  /-- The scheduler cannot spawn a task. -/
  | spawnFails
  /-- The callback of the item that the scheduler works on ends, normally or not. -/
  | workEnds (panics : Bool)
  /-- A task makes its next step; its first one ends the callback, normally or not. -/
  | taskStep (index : Nat)
  deriving DecidableEq, Repr

/-- What a move means for an item. -/
inductive Event (α : Type) where
  /-- It was accepted. -/
  | accepted (a : α)
  /-- It was refused. -/
  | refused (a : α) (e : QueueError)
  /-- It was taken out. -/
  | taken (a : α)
  /-- Its callback ended. -/
  | ended (a : α)
  /-- It was given up, as its task could not be spawned. -/
  | abandoned (a : α)
  /-- It was dropped when the scheduler stopped. -/
  | dropped (a : α)
  deriving DecidableEq, Repr

namespace Scheduler

variable {α : Type}

/-- The next step of the scheduler. While it works on an item itself it makes none; while it drains
it waits for the running tasks. -/
def advance (s : Scheduler α) : Scheduler α × List (Event α) :=
  match s.phase with
  | .loopTest => ({ s with phase := if s.queue.closed then .draining else .polling }, [])
  | .polling =>
    ({ s with queue := { s.queue with polls := s.queue.polls + 1 }, phase := .blockTest }, [])
  | .blockTest => ({ s with phase := if s.queue.blocked then .loopTest else .slotWait }, [])
  | .slotWait => ({ s with phase := if s.queue.atTaskLimit then .loopTest else .taking }, [])
  | .taking =>
    match s.queue.take? with
    | none => ({ s with phase := .loopTest }, [])
    | some (a, queue) => ({ s with queue, phase := .dispatching a }, [.taken a])
  | .dispatching a =>
    if s.queue.settings.multitask then
      ({ s with queue := s.queue.beginTask, phase := .spawning a }, [])
    else ({ s with phase := .working a }, [])
  | .spawning a => ({ s with tasks := s.tasks ++ [⟨a, .working⟩], phase := .loopTest }, [])
  | .abandoning => ({ s with queue := s.queue.freeTask, phase := .landing }, [])
  | .landing => ({ s with queue := s.queue.land, phase := .loopTest }, [])
  | .draining => if s.queue.running = 0 then ({ s with phase := .dropping }, []) else (s, [])
  | .dropping =>
    ({ s with queue := { s.queue with items := [] }, phase := .leaving },
      s.queue.items.map .dropped)
  | .leaving => ({ s with phase := .stopped }, [])
  | _ => (s, [])

/-- The scheduler does not get a lock in time, and begins another round. It waits that long for the
lock of the task count, which it looks at only if there is a limit, and for the lock of the items. -/
def advanceContended (s : Scheduler α) : Scheduler α × List (Event α) :=
  match s.phase with
  | .slotWait =>
    if s.queue.settings.multitask && 0 < s.queue.settings.maxTasks then
      ({ s with phase := .loopTest }, [])
    else (s, [])
  | .taking => ({ s with phase := .loopTest }, [])
  | _ => (s, [])

/-- The scheduler cannot spawn the task that it has counted, and gives its item up. -/
def spawnFails (s : Scheduler α) : Scheduler α × List (Event α) :=
  match s.phase with
  | .spawning a => ({ s with phase := .abandoning }, [.abandoned a])
  | _ => (s, [])

/-- The next step at the end of a task: count its item, free its place, land its item. -/
def taskStep (i : Nat) (s : Scheduler α) : Scheduler α × List (Event α) :=
  match s.tasks[i]? with
  | none => (s, [])
  | some t =>
    match t.stage with
    | .working =>
      ({ s with queue := s.queue.countDone, tasks := s.tasks.set i { t with stage := .counted } },
        [.ended t.item])
    | .counted =>
      ({ s with queue := s.queue.freeTask, tasks := s.tasks.set i { t with stage := .freed } }, [])
    | .freed => ({ s with queue := s.queue.land, tasks := s.tasks.eraseIdx i }, [])

/-- The end of the callback of the item that the scheduler works on. A callback that fails takes the
scheduler with it. -/
def workEnds (panics : Bool) (s : Scheduler α) : Scheduler α × List (Event α) :=
  match s.phase with
  | .working a =>
    if panics then ({ s with phase := .crashed }, [.ended a])
    else ({ s with queue := s.queue.countDone, phase := .landing }, [.ended a])
  | _ => (s, [])

/-- A producer looks whether the queue is shut down. If it is not, the producer asks for the lock. -/
def enqueue (a : α) (s : Scheduler α) : Scheduler α × List (Event α) :=
  if s.queue.closed then
    ({ s with queue := { s.queue with rejected := s.queue.rejected + 1 } }, [.refused a .shutDown])
  else ({ s with producers := s.producers ++ [a] }, [])

/-- A producer gets the lock, and puts its item in if there is room. -/
def push (i : Nat) (s : Scheduler α) : Scheduler α × List (Event α) :=
  match s.producers[i]? with
  | none => (s, [])
  | some a =>
    let producers := s.producers.eraseIdx i
    match s.queue.push a with
    | (.ok (), queue) => ({ s with queue, producers }, [.accepted a])
    | (.error e, queue) => ({ s with queue, producers }, [.refused a e])

/-- A producer does not get the lock in time. -/
def pushContended (i : Nat) (s : Scheduler α) : Scheduler α × List (Event α) :=
  match s.producers[i]? with
  | none => (s, [])
  | some a =>
    ({ s with
        queue := { s.queue with rejected := s.queue.rejected + 1 }
        producers := s.producers.eraseIdx i },
      [.refused a .lockTimeout])

/-- One move. -/
def step (m : Move α) (s : Scheduler α) : Scheduler α × List (Event α) :=
  match m with
  | .enqueue a => s.enqueue a
  | .push i => s.push i
  | .pushContended i => s.pushContended i
  | .setBlocked b => ({ s with queue := s.queue.setBlocked b }, [])
  | .shutDown => ({ s with queue := s.queue.shutDown }, [])
  | .start =>
    match s.phase with
    | .notStarted => ({ s with phase := .loopTest }, [])
    | _ => (s, [])
  | .advance => s.advance
  | .advanceContended => s.advanceContended
  | .spawnFails => s.spawnFails
  | .workEnds panics => s.workEnds panics
  | .taskStep i => s.taskStep i

/-- A row of moves, with all their events. -/
def run (s : Scheduler α) : List (Move α) → Scheduler α × List (Event α)
  | [] => (s, [])
  | m :: rest =>
    let (s, es) := s.step m
    let (s, fs) := s.run rest
    (s, es ++ fs)

/-- A whole call of a producer, when nothing comes in between. -/
def offer (a : α) (s : Scheduler α) : Scheduler α × List (Event α) :=
  s.run [.enqueue a, .push s.producers.length]

end Scheduler

end Multilink
