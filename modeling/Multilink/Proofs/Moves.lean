import Multilink.WorkQueue.Scheduler
/-!
# What a move of a work queue can do

`Scheduler.Change` lists everything that a move can do to a queue, its scheduler and its tasks, with
the state that it leads to and its events. Theorems about runs are case analyses over it, so that
none of them looks at the moves themselves.
-/

namespace Multilink

namespace Scheduler

variable {α : Type} {s : Scheduler α}

/-- The scheduler goes on, and leaves the queue as it is. -/
inductive Turn (s : Scheduler α) : Phase α → Prop
  | starts (place : s.phase = .notStarted) : Turn s .loopTest
  | leaves (place : s.phase = .loopTest) (closed : s.queue.closed = true) : Turn s .draining
  | enters (place : s.phase = .loopTest) (opened : s.queue.closed = false) : Turn s .polling
  /-- The queue is blocked, no task is free, nothing is there to take, or a lock is contended. -/
  | givesUp (place : s.phase = .blockTest ∨ s.phase = .slotWait ∨ s.phase = .taking) :
      Turn s .loopTest
  | passes (place : s.phase = .blockTest) (free : s.queue.blocked = false) : Turn s .slotWait
  | slotFound (place : s.phase = .slotWait) (free : s.queue.atTaskLimit = false) : Turn s .taking
  | works {a : α} (place : s.phase = .dispatching a) (single : s.queue.settings.multitask = false) :
      Turn s (.working a)
  | drained (place : s.phase = .draining) (ended : s.queue.running = 0) : Turn s .dropping
  | returns (place : s.phase = .leaving) : Turn s .stopped

/-- Everything that a move can do, with its events. -/
inductive Change (s : Scheduler α) : List (Event α) → Scheduler α → Prop
  | looked {a : α} (opened : s.queue.closed = false) :
      Change s [] { s with producers := s.producers ++ [a] }
  | accepted {a : α} {before after : List α} (asking : s.producers = before ++ a :: after)
      (room : s.queue.full = false) :
      Change s [.accepted a]
        { s with
          queue := { s.queue with items := s.queue.items ++ [a] }
          producers := before ++ after }
  | refused {a : α} {e : QueueError} {producers : List α} (fewer : producers.Sublist s.producers) :
      Change s [.refused a e]
        { s with queue := { s.queue with rejected := s.queue.rejected + 1 }, producers }
  | blocked {b : Bool} : Change s [] { s with queue := s.queue.setBlocked b }
  | closed : Change s [] { s with queue := s.queue.shutDown }
  | rested : Change s [] s
  | turned {phase : Phase α} (turn : Turn s phase) : Change s [] { s with phase }
  | polled (place : s.phase = .polling) :
      Change s []
        { s with queue := { s.queue with polls := s.queue.polls + 1 }, phase := .blockTest }
  | taken {a : α} {rest : List α} (place : s.phase = .taking) (first : s.queue.items = a :: rest) :
      Change s [.taken a]
        { s with
          queue := { s.queue with items := rest, inFlight := s.queue.inFlight + 1 }
          phase := .dispatching a }
  | began {a : α} (place : s.phase = .dispatching a) (multi : s.queue.settings.multitask = true) :
      Change s [] { s with queue := s.queue.beginTask, phase := .spawning a }
  | spawned {a : α} (place : s.phase = .spawning a) :
      Change s [] { s with tasks := s.tasks ++ [⟨a, .working⟩], phase := .loopTest }
  | abandoned {a : α} (place : s.phase = .spawning a) :
      Change s [.abandoned a] { s with phase := .abandoning }
  | forgone (place : s.phase = .abandoning) :
      Change s [] { s with queue := s.queue.freeTask, phase := .landing }
  | ended {a : α} (place : s.phase = .working a) :
      Change s [.ended a] { s with queue := s.queue.countDone, phase := .landing }
  | failed {a : α} (place : s.phase = .working a) : Change s [.ended a] { s with phase := .crashed }
  | cleared (place : s.phase = .landing) :
      Change s [] { s with queue := s.queue.land, phase := .loopTest }
  | counted {a : α} {before after : List (Task α)}
      (tasks : s.tasks = before ++ ⟨a, .working⟩ :: after) :
      Change s [.ended a]
        { s with queue := s.queue.countDone, tasks := before ++ ⟨a, .counted⟩ :: after }
  | freed {a : α} {before after : List (Task α)}
      (tasks : s.tasks = before ++ ⟨a, .counted⟩ :: after) :
      Change s [] { s with queue := s.queue.freeTask, tasks := before ++ ⟨a, .freed⟩ :: after }
  | landed {a : α} {before after : List (Task α)}
      (tasks : s.tasks = before ++ ⟨a, .freed⟩ :: after) :
      Change s [] { s with queue := s.queue.land, tasks := before ++ after }
  | dropped (place : s.phase = .dropping) :
      Change s (s.queue.items.map .dropped)
        { s with queue := { s.queue with items := [] }, phase := .leaving }

theorem change_advance (s : Scheduler α) : Change s s.advance.2 s.advance.1 := by
  unfold advance
  split
  · next hp =>
    cases hc : s.queue.closed with
    | true => exact .turned (.leaves hp hc)
    | false => exact .turned (.enters hp hc)
  · next hp => exact .polled hp
  · next hp =>
    cases hb : s.queue.blocked with
    | true => exact .turned (.givesUp (.inl hp))
    | false => exact .turned (.passes hp hb)
  · next hp =>
    cases hl : s.queue.atTaskLimit with
    | true => exact .turned (.givesUp (.inr (.inl hp)))
    | false => exact .turned (.slotFound hp hl)
  · next hp =>
    cases hitems : s.queue.items with
    | nil =>
      simp only [WorkQueue.take?, hitems]
      exact .turned (.givesUp (.inr (.inr hp)))
    | cons a rest =>
      simp only [WorkQueue.take?, hitems]
      exact .taken hp hitems
  · next a hp =>
    split
    · next hm => exact .began hp hm
    · next hm => exact .turned (.works hp (by simpa using hm))
  · next a hp => exact .spawned hp
  · next hp => exact .forgone hp
  · next hp => exact .cleared hp
  · next hp =>
    split
    · next hrun => exact .turned (.drained hp hrun)
    · exact .rested
  · next hp => exact .dropped hp
  · next hp => exact .turned (.returns hp)
  · exact .rested

theorem change_advanceContended (s : Scheduler α) :
    Change s s.advanceContended.2 s.advanceContended.1 := by
  unfold advanceContended
  split
  · next hp =>
    split
    · exact .turned (.givesUp (.inr (.inl hp)))
    · exact .rested
  · next hp => exact .turned (.givesUp (.inr (.inr hp)))
  · exact .rested

theorem change_spawnFails (s : Scheduler α) : Change s s.spawnFails.2 s.spawnFails.1 := by
  unfold spawnFails
  split
  · next a hp => exact .abandoned hp
  · exact .rested

theorem change_workEnds (panics : Bool) (s : Scheduler α) :
    Change s (s.workEnds panics).2 (s.workEnds panics).1 := by
  unfold workEnds
  split
  · next a hp =>
    cases panics with
    | true => exact .failed hp
    | false => exact .ended hp
  · exact .rested

/-- An element in its place in a list. -/
theorem split_at {β : Type} {l : List β} {i : Nat} {x : β} (h : l[i]? = some x) :
    ∃ before after, l = before ++ x :: after ∧
      (∀ y, l.set i y = before ++ y :: after) ∧ l.eraseIdx i = before ++ after := by
  obtain ⟨hi, rfl⟩ := List.getElem?_eq_some_iff.1 h
  refine ⟨l.take i, l.drop (i + 1), ?_, fun y => ?_, l.eraseIdx_eq_take_drop_succ i⟩
  · rw [List.getElem_cons_drop, List.take_append_drop]
  · rw [List.set_eq_take_append_cons_drop, if_pos hi]

theorem change_taskStep (i : Nat) (s : Scheduler α) :
    Change s (s.taskStep i).2 (s.taskStep i).1 := by
  unfold taskStep
  cases hi : s.tasks[i]? with
  | none => exact .rested
  | some x =>
    obtain ⟨before, after, htasks, hset, herase⟩ := split_at hi
    obtain ⟨a, stage⟩ := x
    cases stage with
    | working => simpa only [hset] using Change.counted htasks
    | counted => simpa only [hset] using Change.freed htasks
    | freed => simpa only [herase] using Change.landed htasks

theorem change_enqueue (a : α) (s : Scheduler α) :
    Change s (s.enqueue a).2 (s.enqueue a).1 := by
  unfold enqueue
  split
  · exact .refused (.refl _)
  · next hc => exact .looked (by simpa using hc)

theorem push_cases (a : α) (q : WorkQueue α) :
    (q.full = true ∧ q.push a = (.error .busy, { q with rejected := q.rejected + 1 })) ∨
    (q.full = false ∧ q.push a = (.ok (), { q with items := q.items ++ [a] })) := by
  unfold WorkQueue.push
  cases q.full with
  | true => exact .inl ⟨rfl, rfl⟩
  | false => exact .inr ⟨rfl, rfl⟩

theorem change_push (i : Nat) (s : Scheduler α) : Change s (s.push i).2 (s.push i).1 := by
  unfold push
  cases hi : s.producers[i]? with
  | none => exact .rested
  | some a =>
    obtain ⟨before, after, hproducers, -, herase⟩ := split_at hi
    rcases push_cases a s.queue with ⟨-, h⟩ | ⟨hroom, h⟩
    · simp only [h]
      exact .refused (List.eraseIdx_sublist ..)
    · simp only [h, herase]
      exact .accepted hproducers hroom

theorem change_pushContended (i : Nat) (s : Scheduler α) :
    Change s (s.pushContended i).2 (s.pushContended i).1 := by
  unfold pushContended
  split
  · exact .rested
  · exact .refused (List.eraseIdx_sublist ..)

theorem change_step (m : Move α) (s : Scheduler α) : Change s (s.step m).2 (s.step m).1 := by
  cases m with
  | enqueue a => exact change_enqueue a s
  | push i => exact change_push i s
  | pushContended i => exact change_pushContended i s
  | setBlocked b => exact .blocked
  | shutDown => exact .closed
  | start =>
    simp only [step]
    split
    · next hp => exact .turned (.starts hp)
    · exact .rested
  | advance => exact change_advance s
  | advanceContended => exact change_advanceContended s
  | spawnFails => exact change_spawnFails s
  | workEnds panics => exact change_workEnds panics s
  | taskStep i => exact change_taskStep i s

/-! ## Rows of moves -/

/-- What every change keeps holds along every run. -/
theorem run_keeps {P : Scheduler α → Prop} (hP : ∀ {s es t}, P s → Change s es t → P t) (h : P s)
    (moves : List (Move α)) : P (s.run moves).1 := by
  induction moves generalizing s with
  | nil => exact h
  | cons m rest ih => exact ih (hP h (change_step m s))

/-- What comes to hold along a run, and stays, came with one of its moves. -/
theorem run_iff {P : Scheduler α → Prop} {Q : Move α → Scheduler α → Prop}
    (h : ∀ m s, P (s.step m).1 ↔ P s ∨ Q m s) (s : Scheduler α) (moves : List (Move α)) :
    P (s.run moves).1 ↔
      P s ∨ ∃ before m after, moves = before ++ m :: after ∧ Q m (s.run before).1 := by
  induction moves generalizing s with
  | nil => simp [run]
  | cons m rest ih =>
    rw [show (s.run (m :: rest)).1 = ((s.step m).1.run rest).1 from rfl, ih, h, or_assoc]
    refine or_congr_right ⟨?_, ?_⟩
    · rintro (hq | ⟨before, n, after, rfl, hq⟩)
      · exact ⟨[], m, rest, rfl, hq⟩
      · exact ⟨m :: before, n, after, rfl, hq⟩
    · rintro ⟨_ | ⟨n, before⟩, k, after, hmoves, hq⟩
      · cases hmoves
        exact .inl hq
      · cases hmoves
        exact .inr ⟨before, k, after, rfl, hq⟩

theorem run_append (s : Scheduler α) (before after : List (Move α)) :
    s.run (before ++ after) =
      (((s.run before).1.run after).1, (s.run before).2 ++ ((s.run before).1.run after).2) := by
  induction before generalizing s with
  | nil => rfl
  | cons m rest ih => simp [run, ih]

theorem closed_step {m : Move α} (h : m ≠ .shutDown) (s : Scheduler α) :
    (s.step m).1.queue.closed = s.queue.closed := by
  cases m with
  | shutDown => exact absurd rfl h
  | enqueue a => grind [step, enqueue]
  | push i => grind [step, push, WorkQueue.push]
  | pushContended i => grind [step, pushContended]
  | advance =>
    grind [step, advance, WorkQueue.take?, WorkQueue.beginTask, WorkQueue.freeTask, WorkQueue.land]
  | taskStep i => grind [step, taskStep, WorkQueue.countDone, WorkQueue.freeTask, WorkQueue.land]
  | workEnds panics => grind [step, workEnds, WorkQueue.countDone]
  | _ => grind [step, advanceContended, spawnFails, WorkQueue.setBlocked]

theorem closed_run {moves : List (Move α)} (h : .shutDown ∉ moves) (s : Scheduler α) :
    (s.run moves).1.queue.closed = s.queue.closed := by
  induction moves generalizing s with
  | nil => rfl
  | cons m rest ih =>
    obtain ⟨hm, hrest⟩ : .shutDown ≠ m ∧ .shutDown ∉ rest := by simpa using h
    exact (ih hrest _).trans (closed_step hm.symm s)

end Scheduler

end Multilink
