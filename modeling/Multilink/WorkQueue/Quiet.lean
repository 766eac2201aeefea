import Multilink.WorkQueue.Scheduler
/-!
# Running a queue until it is quiet

What a scheduler and its tasks do by themselves, until nothing more can happen: producers get the
lock, tasks that need not wait end, the scheduler goes on with its rounds, and each poll puts in one
item of a feed, while there are any. Every task can be spawned here. A queue is quiet when every
callback that has begun has ended or waits, and the scheduler has nothing to take out, may not take
it out, waits for its item, or has stopped.
-/

namespace Multilink.Scheduler

variable {α : Type}

/-- How items behave. -/
structure Behaviour (α : Type) where
  /-- Does the callback of this item wait for something from outside? -/
  waits : α → Bool
  /-- Does the callback of this item fail? -/
  panics : α → Bool

/-- The first task that need not wait. -/
def readyTask? (b : Behaviour α) (s : Scheduler α) : Option Nat :=
  s.tasks.findIdx? fun t => t.stage != .working || !b.waits t.item

/-- The items whose callbacks have begun and wait. -/
def waiting (b : Behaviour α) (s : Scheduler α) : List α :=
  let own := match s.phase with
    | .working a => [a]
    | _ => []
  let others := (s.tasks.filter (·.stage == .working)).map (·.item)
  (own ++ others).filter b.waits

/-- Would another round of the scheduler only poll? -/
def idleRound (s : Scheduler α) : Bool :=
  !s.queue.closed && 0 < s.queue.polls
    && (s.queue.items.isEmpty || s.queue.blocked || s.queue.atTaskLimit)

/-- The next move that a queue makes by itself, and the feed that is left; none when it is quiet. -/
def nextMove? (b : Behaviour α) (feed : List α) (fed : Bool) (s : Scheduler α) :
    Option (Move α × List α) :=
  match s.producers, s.readyTask? b with
  | _ :: _, _ => some (.push 0, feed)
  | [], some i => some (.taskStep i, feed)
  | [], none =>
    match s.phase with
    | .notStarted | .stopped | .crashed => none
    | .working a => if b.waits a then none else some (.workEnds (b.panics a), feed)
    | .draining => if s.queue.running = 0 then some (.advance, feed) else none
    | .polling =>
      match feed with
      | a :: rest => if fed then some (.advance, feed) else some (.enqueue a, rest)
      | [] => some (.advance, [])
    | .loopTest => if feed.isEmpty && s.idleRound then none else some (.advance, feed)
    | _ => some (.advance, feed)

/-- Makes at most `fuel` moves. `fed` tells that the current poll has put its item in. -/
def settleFor (b : Behaviour α) :
    Nat → List α → Bool → Scheduler α → Scheduler α × List α × List (Event α)
  | 0, feed, _, s => (s, feed, [])
  | fuel + 1, feed, fed, s =>
    match s.nextMove? b feed fed with
    | none => (s, feed, [])
    | some (m, feed) =>
      let (s, es) := s.step m
      let fed := match m with
        | .enqueue _ => true
        | .advance => false
        | _ => fed
      let (s, feed, fs) := settleFor b fuel feed fed s
      (s, feed, es ++ fs)

/-- Enough moves to bring a queue to rest: a full round and a task for each item and each feed. -/
def settleFuel (feed : List α) (s : Scheduler α) : Nat :=
  16 * (s.queue.items.length + feed.length + s.tasks.length + 3)

/-- Runs a queue until it is quiet. Returns the feed that is left, too. -/
def settle (b : Behaviour α) (feed : List α) (s : Scheduler α) :
    Scheduler α × List α × List (Event α) :=
  s.settleFor b (s.settleFuel feed) feed false

end Multilink.Scheduler
