import Mathlib.Data.List.Nodup
import Mathlib.Data.List.Pairwise
import Mathlib.Data.List.Perm.Subperm
import Multilink.Proofs.Moves
/-!
# No item is lost, none is handled twice

Producers, the scheduler and its tasks make moves in any order, and each may find a lock contended. A
call of a producer is two moves; a round of the scheduler and the end of a task are several.
`Scheduler.run_conserves` says where the items are after any row of moves on a new queue: those that
were accepted leave the queue in the order in which they came, and each of them is in one place. It
also says what a scheduler leaves behind when it returns: what producers put in after the drop, who had
looked for a shutdown before there was one.

What a move can do (`Scheduler.Change`) comes down to a few things for the items, `Scheduler.Effect`.
What it does to them is entered in accounts, which add up along a run (`Accounts`). What the scheduler
can rely on when it returns holds after each move (`Inv`).
-/

namespace Multilink

/-! ## Where items are -/

namespace Event

variable {α : Type}

def accepted? : Event α → Option α
  | .accepted a => some a
  | _ => none

def refused? : Event α → Option α
  | .refused a _ => some a
  | _ => none

def taken? : Event α → Option α
  | .taken a => some a
  | _ => none

def ended? : Event α → Option α
  | .ended a => some a
  | _ => none

def abandoned? : Event α → Option α
  | .abandoned a => some a
  | _ => none

/-- The item that is out of all hands from now on. -/
def done? : Event α → Option α
  | .ended a | .abandoned a => some a
  | _ => none

def dropped? : Event α → Option α
  | .dropped a => some a
  | _ => none

/-- The item that leaves the queue, to be worked on or to be dropped. -/
def left? : Event α → Option α
  | .taken a | .dropped a => some a
  | _ => none

end Event

namespace Phase

variable {α : Type}

/-- The item in the hands of the scheduler. -/
def item? : Phase α → Option α
  | .dispatching a | .spawning a | .working a => some a
  | _ => none

/-- How many places of tasks the scheduler holds itself. -/
def places : Phase α → Nat
  | .spawning _ | .abandoning => 1
  | _ => 0

/-- Has the scheduler seen that the queue is shut down? -/
def ending : Phase α → Bool
  | .draining | .dropping | .leaving | .stopped => true
  | _ => false

/-- Has the scheduler seen after that that no task runs? -/
def drained : Phase α → Bool
  | .dropping | .leaving | .stopped => true
  | _ => false

/-- Has the scheduler dropped what waited? -/
def swept : Phase α → Bool
  | .leaving | .stopped => true
  | _ => false

theorem ending_of_swept {p : Phase α} (h : p.swept = true) : p.ending = true := by
  cases p <;> first | rfl | cases h

end Phase

/-- The item in the hands of a task, until its callback has ended. -/
def Task.item? {α : Type} (t : Task α) : Option α :=
  if t.stage = .working then some t.item else none

inductive Place where
  | queued
  | inFlight
  | finished
  | abandoned
  | dropped
  deriving DecidableEq, Repr

namespace Place

def all : List Place := [.queued, .inFlight, .finished, .abandoned, .dropped]

theorem mem_all (p : Place) : p ∈ all := by
  cases p <;> decide

end Place

namespace Scheduler

open scoped List

variable {α : Type} {s t u : Scheduler α} {es fs : List (Event α)} {settings : QueueSettings}
variable {a : α} {e : QueueError} {x : Task α} {before after : List (Task α)}

/-- The items taken out whose callbacks have not ended. -/
def inFlight (s : Scheduler α) : List α :=
  s.phase.item?.toList ++ s.tasks.filterMap Task.item?

/-- The items in a place, after these events. -/
def itemsAt (s : Scheduler α) (es : List (Event α)) : Place → List α
  | .queued => s.queue.items
  | .inFlight => s.inFlight
  | .finished => es.filterMap Event.ended?
  | .abandoned => es.filterMap Event.abandoned?
  | .dropped => es.filterMap Event.dropped?

/-- The number of places of tasks that have not been given back. -/
def busy (s : Scheduler α) : Nat :=
  s.tasks.countP (·.stage ≠ .freed) + s.phase.places

/-! ## What a move can do -/

/-- A queue with the same items and tasks, which is still shut down if it was. -/
structure Alike (q r : WorkQueue α) : Prop where
  settings : r.settings = q.settings
  items : r.items = q.items
  running : r.running = q.running
  rejected : r.rejected = q.rejected
  closed : q.closed = true → r.closed = true

theorem Alike.refl (q : WorkQueue α) : Alike q q := ⟨rfl, rfl, rfl, rfl, id⟩

/-- What a move can do, with its events. -/
inductive Effect (s : Scheduler α) : List (Event α) → Scheduler α → Prop
  | accepted {a : α} {producers : List α} (room : s.queue.full = false) :
      Effect s [.accepted a]
        { s with queue := { s.queue with items := s.queue.items ++ [a] }, producers }
  | refused {a : α} {e : QueueError} {producers : List α} :
      Effect s [.refused a e]
        { s with queue := { s.queue with rejected := s.queue.rejected + 1 }, producers }
  | moved {queue : WorkQueue α} {phase : Phase α} {producers : List α} (alike : Alike s.queue queue)
      (item : phase.item? = s.phase.item?) (places : phase.places = s.phase.places)
      (ending : phase.ending = true → s.phase.ending = true ∨ queue.closed = true)
      (drained : phase.drained = true → s.phase.drained = true ∨ queue.running = 0)
      (swept : phase.swept = s.phase.swept) :
      Effect s [] { s with queue, phase, producers }
  | taken {a : α} {rest : List α} (taking : s.phase = .taking) (first : s.queue.items = a :: rest) :
      Effect s [.taken a]
        { s with
          queue := { s.queue with items := rest, inFlight := s.queue.inFlight + 1 }
          phase := .dispatching a }
  | began {a : α} (dispatching : s.phase = .dispatching a) :
      Effect s [] { s with queue := s.queue.beginTask, phase := .spawning a }
  | spawned {a : α} (spawning : s.phase = .spawning a) :
      Effect s [] { s with tasks := s.tasks ++ [⟨a, .working⟩], phase := .loopTest }
  | abandoned {a : α} (spawning : s.phase = .spawning a) :
      Effect s [.abandoned a] { s with phase := .abandoning }
  | forgone (abandoning : s.phase = .abandoning) :
      Effect s [] { s with queue := s.queue.freeTask, phase := .landing }
  | ended {a : α} {queue : WorkQueue α} {phase : Phase α} (working : s.phase = .working a)
      (alike : Alike s.queue queue) (next : phase = .landing ∨ phase = .crashed) :
      Effect s [.ended a] { s with queue, phase }
  | counted {a : α} {before after : List (Task α)}
      (tasks : s.tasks = before ++ ⟨a, .working⟩ :: after) :
      Effect s [.ended a]
        { s with queue := s.queue.countDone, tasks := before ++ ⟨a, .counted⟩ :: after }
  | freed {a : α} {before after : List (Task α)}
      (tasks : s.tasks = before ++ ⟨a, .counted⟩ :: after) :
      Effect s [] { s with queue := s.queue.freeTask, tasks := before ++ ⟨a, .freed⟩ :: after }
  | landed {a : α} {before after : List (Task α)}
      (tasks : s.tasks = before ++ ⟨a, .freed⟩ :: after) :
      Effect s [] { s with queue := s.queue.land, tasks := before ++ after }
  | dropped (dropping : s.phase = .dropping) :
      Effect s (s.queue.items.map .dropped)
        { s with queue := { s.queue with items := [] }, phase := .leaving }

theorem effect_rest {queue : WorkQueue α} {producers : List α} (h : Alike s.queue queue) :
    Effect s [] { s with queue, producers } :=
  .moved h rfl rfl .inl .inl rfl

/-- The scheduler goes on within its rounds. -/
theorem effect_goOn {queue : WorkQueue α} {p phase : Phase α} (hp : s.phase = p)
    (alike : Alike s.queue queue) (item : phase.item? = p.item?) (places : phase.places = p.places)
    (going : phase.ending = false) (swept : phase.swept = p.swept) : Effect s [] { s with queue, phase } := by
  refine .moved alike (hp ▸ item) (hp ▸ places) (fun h => ?_) (fun h => ?_) (hp ▸ swept)
  · cases going.symm.trans h
  · cases phase <;> simp_all [Phase.ending, Phase.drained]

theorem Turn.effect {phase : Phase α} (h : Turn s phase) : Effect s [] { s with phase } := by
  cases h with
  | leaves place closed =>
    exact .moved (.refl _) (by rw [place]; rfl) (by rw [place]; rfl) (fun _ => .inr closed) nofun
      (by rw [place]; rfl)
  | drained place ended =>
    exact .moved (.refl _) (by rw [place]; rfl) (by rw [place]; rfl) (fun _ => .inl (by rw [place]; rfl))
      (fun _ => .inr ended) (by rw [place]; rfl)
  | returns place =>
    exact .moved (.refl _) (by rw [place]; rfl) (by rw [place]; rfl) (fun _ => .inl (by rw [place]; rfl))
      (fun _ => .inl (by rw [place]; rfl)) (by rw [place]; rfl)
  | givesUp place => rcases place with hp | hp | hp <;> exact effect_goOn hp (.refl _) rfl rfl rfl rfl
  | starts place => exact effect_goOn place (.refl _) rfl rfl rfl rfl
  | enters place _ => exact effect_goOn place (.refl _) rfl rfl rfl rfl
  | passes place _ => exact effect_goOn place (.refl _) rfl rfl rfl rfl
  | slotFound place _ => exact effect_goOn place (.refl _) rfl rfl rfl rfl
  | works place _ => exact effect_goOn place (.refl _) rfl rfl rfl rfl

theorem Change.effect (h : Change s es t) : Effect s es t := by
  cases h with
  | looked => exact effect_rest (.refl _)
  | accepted asking room => exact .accepted room
  | refused => exact .refused
  | blocked => exact effect_rest ⟨rfl, rfl, rfl, rfl, id⟩
  | closed => exact effect_rest ⟨rfl, rfl, rfl, rfl, fun _ => rfl⟩
  | rested => exact effect_rest (.refl _)
  | turned turn => exact turn.effect
  | polled place => exact effect_goOn place ⟨rfl, rfl, rfl, rfl, id⟩ rfl rfl rfl rfl
  | taken place first => exact .taken place first
  | began place _ => exact .began place
  | spawned place => exact .spawned place
  | abandoned place => exact .abandoned place
  | forgone place => exact .forgone place
  | ended place => exact .ended place ⟨rfl, rfl, rfl, rfl, id⟩ (.inl rfl)
  | failed place => exact .ended place (.refl _) (.inr rfl)
  | cleared place => exact effect_goOn place ⟨rfl, rfl, rfl, rfl, id⟩ rfl rfl rfl rfl
  | counted tasks => exact .counted tasks
  | freed tasks => exact .freed tasks
  | landed tasks => exact .landed tasks
  | dropped place => exact .dropped place

theorem effect_step (m : Move α) (s : Scheduler α) : Effect s (s.step m).2 (s.step m).1 :=
  (change_step m s).effect

/-! ## Accounts -/

theorem perm_append_right_comm (k l m : List α) : (k ++ l) ++ m ~ (k ++ m) ++ l := by
  rw [List.append_assoc, List.append_assoc]
  exact List.perm_append_comm.append_left k

/-- What a row of moves with these events has done to the items. -/
structure Accounts (s : Scheduler α) (es : List (Event α)) (t : Scheduler α) : Prop where
  queue : s.queue.items ++ es.filterMap Event.accepted? = es.filterMap Event.left? ++ t.queue.items
  hands : (s.inFlight ++ es.filterMap Event.taken?).Perm (t.inFlight ++ es.filterMap Event.done?)
  rejected : t.queue.rejected = s.queue.rejected + (es.filterMap Event.refused?).length
  left : es.filterMap Event.left? = es.filterMap Event.taken? ++ es.filterMap Event.dropped?
  /-- Items are dropped at the end. -/
  last : es.filterMap Event.dropped? = [] ∨ t.phase.swept = true
  /-- A scheduler that has dropped what waited takes nothing out, and drops nothing more. -/
  halted : s.phase.swept = true →
    t.phase.swept = true ∧ es.filterMap Event.taken? = [] ∧ es.filterMap Event.dropped? = []

namespace Accounts

theorem trans (h : Accounts s es t) (k : Accounts t fs u) : Accounts s (es ++ fs) u := by
  constructor
  · rw [List.filterMap_append, List.filterMap_append, ← List.append_assoc, h.queue, List.append_assoc,
      k.queue, List.append_assoc]
  · rw [List.filterMap_append, List.filterMap_append]
    calc s.inFlight ++ (es.filterMap Event.taken? ++ fs.filterMap Event.taken?)
        = (s.inFlight ++ es.filterMap Event.taken?) ++ fs.filterMap Event.taken? :=
          (List.append_assoc ..).symm
      _ ~ (t.inFlight ++ es.filterMap Event.done?) ++ fs.filterMap Event.taken? :=
          h.hands.append_right _
      _ ~ (t.inFlight ++ fs.filterMap Event.taken?) ++ es.filterMap Event.done? :=
          perm_append_right_comm ..
      _ ~ (u.inFlight ++ fs.filterMap Event.done?) ++ es.filterMap Event.done? :=
          k.hands.append_right _
      _ ~ (u.inFlight ++ es.filterMap Event.done?) ++ fs.filterMap Event.done? :=
          perm_append_right_comm ..
      _ = u.inFlight ++ (es.filterMap Event.done? ++ fs.filterMap Event.done?) :=
          List.append_assoc ..
  · rw [k.rejected, h.rejected, List.filterMap_append, List.length_append, Nat.add_assoc]
  · simp only [List.filterMap_append, h.left, k.left, List.append_assoc]
    -- whatever was taken out after a drop would be out of place here
    rcases h.last with hd | hswept
    · rw [hd, List.nil_append, List.nil_append]
    · rw [(k.halted hswept).2.1, List.nil_append, List.nil_append]
  · rcases h.last with hd | hswept
    · rw [List.filterMap_append, hd, List.nil_append]
      exact k.last
    · exact .inr (k.halted hswept).1
  · intro hswept
    obtain ⟨hswept', htaken, hdropped⟩ := h.halted hswept
    rw [List.filterMap_append, List.filterMap_append, htaken, hdropped]
    exact k.halted hswept'

/-- A move without events. -/
theorem silent (items : t.queue.items = s.queue.items) (hands : s.inFlight ~ t.inFlight)
    (rejected : t.queue.rejected = s.queue.rejected)
    (halted : s.phase.swept = true → t.phase.swept = true) : Accounts s [] t where
  queue := by simp [items]
  hands := by simpa using hands
  rejected := rejected
  left := rfl
  last := .inl rfl
  halted h := ⟨halted h, rfl, rfl⟩

/-- What is in the queue of a scheduler that had dropped what waited has come since. -/
theorem left_over (h : Accounts s es t) (swept : s.phase.swept = true) (empty : s.queue.items = []) :
    t.queue.items = es.filterMap Event.accepted? := by
  obtain ⟨-, htaken, hdropped⟩ := h.halted swept
  simpa [empty, h.left, htaken, hdropped] using h.queue.symm

end Accounts

theorem inFlight_eq (h : s.tasks = before ++ x :: after) :
    s.inFlight = s.phase.item?.toList ++ (before.filterMap Task.item? ++
      (x.item?.toList ++ after.filterMap Task.item?)) := by
  rw [inFlight, h, List.filterMap_append, List.filterMap_cons]
  cases x.item? <;> rfl

theorem filterMap_dropped {f : Event α → Option α} (h : ∀ a, f (.dropped a) = some a) (l : List α) :
    (l.map Event.dropped).filterMap f = l := by
  rw [List.filterMap_map, show f ∘ Event.dropped = some from funext h, List.filterMap_some]

theorem filterMap_dropped_none {f : Event α → Option α} (h : ∀ a, f (.dropped a) = none) (l : List α) :
    (l.map Event.dropped).filterMap f = [] := by
  simp [h]

theorem Effect.accounts (h : Effect s es t) : Accounts s es t := by
  cases h with
  | accepted => exact ⟨rfl, .refl _, rfl, rfl, .inl rfl, fun h => ⟨h, rfl, rfl⟩⟩
  | refused => exact ⟨List.append_nil _, .refl _, rfl, rfl, .inl rfl, fun h => ⟨h, rfl, rfl⟩⟩
  | moved alike item places ending drained swept =>
    exact .silent alike.items (by rw [inFlight, inFlight, item]) alike.rejected swept.trans
  | @taken a rest taking first =>
    refine ⟨?_, ?_, rfl, rfl, .inl rfl, fun h => ?_⟩
    · rw [first]
      exact List.append_nil _
    · show s.inFlight ++ [a] ~ a :: s.tasks.filterMap Task.item? ++ []
      rw [inFlight, taking, List.append_nil]
      exact List.perm_append_singleton ..
    · simp [taking, Phase.swept] at h
  | @began a dispatching =>
    refine .silent rfl ?_ rfl fun h => ?_
    · rw [inFlight, inFlight, dispatching]
      exact .refl _
    · simp [dispatching, Phase.swept] at h
  | @spawned a spawning =>
    refine .silent rfl ?_ rfl fun h => ?_
    · rw [inFlight, inFlight, spawning, List.filterMap_append]
      exact List.perm_append_comm
    · simp [spawning, Phase.swept] at h
  | @abandoned a spawning =>
    refine ⟨List.append_nil _, ?_, rfl, rfl, .inl rfl, fun h => ?_⟩
    · show s.inFlight ++ [] ~ s.tasks.filterMap Task.item? ++ [a]
      rw [inFlight, spawning, List.append_nil]
      exact List.perm_append_comm
    · simp [spawning, Phase.swept] at h
  | forgone abandoning =>
    refine .silent rfl ?_ rfl fun h => ?_
    · rw [inFlight, inFlight, abandoning]
      exact .refl _
    · simp [abandoning, Phase.swept] at h
  | @ended a queue phase working alike next =>
    refine ⟨?_, ?_, alike.rejected, rfl, .inl rfl, fun h => ?_⟩
    · show s.queue.items ++ [] = queue.items
      rw [alike.items, List.append_nil]
    · have hnone : phase.item? = none := by rcases next with rfl | rfl <;> rfl
      show s.inFlight ++ [] ~ (phase.item?.toList ++ s.tasks.filterMap Task.item?) ++ [a]
      rw [inFlight, working, hnone, List.append_nil]
      exact List.perm_append_comm
    · simp [working, Phase.swept] at h
  | @counted a before after tasks =>
    refine ⟨List.append_nil _, ?_, rfl, rfl, .inl rfl, fun h => ⟨h, rfl, rfl⟩⟩
    rw [inFlight_eq tasks, inFlight_eq rfl]
    -- the item of the task moves from the middle to the end
    show _ ++ (_ ++ a :: _) ++ [] ~ _ ++ (_ ++ _) ++ [a]
    rw [List.append_nil, List.append_assoc]
    refine .append_left _ (List.perm_middle.trans ?_)
    exact (List.perm_append_singleton ..).symm
  | @freed a before after tasks =>
    refine .silent rfl ?_ rfl id
    rw [inFlight_eq tasks, inFlight_eq rfl]
    exact .refl _
  | @landed a before after tasks =>
    refine .silent rfl ?_ rfl id
    rw [inFlight_eq tasks, inFlight, List.filterMap_append]
    exact .refl _
  | dropped dropping =>
    have hkeep := fun f h => filterMap_dropped (f := f) h s.queue.items
    have hskip := fun f h => filterMap_dropped_none (f := f) h s.queue.items
    refine ⟨?_, ?_, ?_, ?_, .inr rfl, ?_⟩
    · rw [hskip _ fun _ => rfl, hkeep _ fun _ => rfl]
    · rw [hskip _ fun _ => rfl, hskip _ fun _ => rfl, inFlight, dropping]
      exact .refl _
    · rw [hskip _ fun _ => rfl]
      rfl
    · rw [hkeep _ fun _ => rfl, hskip _ fun _ => rfl, hkeep _ fun _ => rfl, List.nil_append]
    · intro h
      simp [dropping, Phase.swept] at h

theorem accounts_run (s : Scheduler α) (moves : List (Move α)) :
    Accounts s (s.run moves).2 (s.run moves).1 := by
  induction moves generalizing s with
  | nil => exact .silent rfl (.refl _) rfl id
  | cons m rest ih => exact (effect_step m s).accounts.trans (ih _)

/-! ## What the scheduler can rely on -/

structure Inv (settings : QueueSettings) (s : Scheduler α) : Prop where
  configured : s.queue.settings = settings
  bound : 0 < settings.capacity → s.queue.items.length ≤ settings.capacity
  busy : s.queue.running = s.busy
  closed : s.phase.ending = true → s.queue.closed = true
  drained : s.phase.drained = true → s.queue.running = 0

theorem inv_new (settings : QueueSettings) : Inv settings ({ queue := { settings } } : Scheduler α) :=
  ⟨rfl, fun _ => Nat.zero_le _, rfl, nofun, nofun⟩

theorem Inv.of_alike (hi : Inv settings s) (alike : Alike s.queue t.queue) (busy : t.busy = s.busy)
    (ending : t.phase.ending = true → s.phase.ending = true ∨ t.queue.closed = true)
    (drained : t.phase.drained = true → s.phase.drained = true ∨ t.queue.running = 0) :
    Inv settings t where
  configured := alike.settings.trans hi.configured
  bound hc := alike.items ▸ hi.bound hc
  busy := by rw [alike.running, hi.busy, busy]
  closed h := (ending h).elim (fun he => alike.closed (hi.closed he)) id
  drained h := (drained h).elim (fun hd => alike.running.trans (hi.drained hd)) id

theorem busy_eq (h : s.tasks = before ++ x :: after) :
    s.busy = before.countP (·.stage ≠ .freed) + after.countP (·.stage ≠ .freed) +
      (if x.stage = .freed then 0 else 1) + s.phase.places := by
  rw [busy, h, List.countP_append, List.countP_cons, ← Nat.add_assoc]
  cases x.stage <;> rfl

theorem length_lt_of_room {q : WorkQueue α} (h : q.full = false) (hc : 0 < q.settings.capacity) :
    q.items.length < q.settings.capacity := by
  simpa [WorkQueue.full, hc] using h

theorem Inv.effect (hi : Inv settings s) (h : Effect s es t) : Inv settings t := by
  have hbusy := hi.busy
  cases h with
  | accepted room =>
    refine ⟨hi.configured, fun hc => ?_, hbusy, hi.closed, hi.drained⟩
    rw [List.length_append, ← hi.configured]
    exact length_lt_of_room room (hi.configured ▸ hc)
  | refused => exact ⟨hi.configured, hi.bound, hbusy, hi.closed, hi.drained⟩
  | moved alike item places ending drained swept =>
    exact hi.of_alike alike (congrArg (_ + ·) places) ending drained
  | taken taking first =>
    refine ⟨hi.configured, fun hc => ?_, ?_, nofun, nofun⟩
    · have hle := hi.bound hc
      rw [first] at hle
      exact Nat.le_of_succ_le hle
    · rw [Scheduler.busy, taking] at hbusy
      exact hbusy
  | began dispatching =>
    refine ⟨hi.configured, hi.bound, ?_, nofun, nofun⟩
    rw [Scheduler.busy, dispatching] at hbusy
    exact congrArg (· + 1) hbusy
  | spawned spawning =>
    refine ⟨hi.configured, hi.bound, ?_, nofun, nofun⟩
    rw [Scheduler.busy, spawning] at hbusy
    rw [Scheduler.busy, List.countP_append]
    exact hbusy
  | abandoned spawning =>
    refine ⟨hi.configured, hi.bound, ?_, nofun, nofun⟩
    rw [Scheduler.busy, spawning] at hbusy
    exact hbusy
  | forgone abandoning =>
    refine ⟨hi.configured, hi.bound, ?_, nofun, nofun⟩
    rw [Scheduler.busy, abandoning] at hbusy
    exact congrArg (· - 1) hbusy
  | ended working alike next =>
    refine hi.of_alike alike ?_ ?_ ?_ <;> rcases next with rfl | rfl
    · rw [Scheduler.busy, Scheduler.busy, working]; rfl
    · rw [Scheduler.busy, Scheduler.busy, working]; rfl
    all_goals exact nofun
  | counted tasks =>
    exact hi.of_alike ⟨rfl, rfl, rfl, rfl, id⟩ (by rw [busy_eq tasks, busy_eq rfl]; rfl) .inl .inl
  | freed tasks =>
    rw [busy_eq tasks] at hbusy
    refine ⟨hi.configured, hi.bound, ?_, hi.closed, fun h => ?_⟩
    · rw [busy_eq rfl, WorkQueue.freeTask, hbusy]
      simp only [reduceCtorEq, if_false, if_true]
      omega
    · rw [WorkQueue.freeTask, hi.drained h]
  | landed tasks =>
    refine hi.of_alike ⟨rfl, rfl, rfl, rfl, id⟩ ?_ .inl .inl
    rw [busy_eq tasks, Scheduler.busy, List.countP_append]
    rfl
  | dropped dropping =>
    have hended : s.queue.running = 0 := hi.drained (by rw [dropping]; rfl)
    refine ⟨hi.configured, fun _ => Nat.zero_le _, ?_, fun _ => ?_, fun _ => hended⟩
    · rw [Scheduler.busy, dropping] at hbusy
      exact hbusy
    · exact hi.closed (by rw [dropping]; rfl)

theorem Inv.run (hi : Inv settings s) (moves : List (Move α)) : Inv settings (s.run moves).1 := by
  induction moves generalizing s with
  | nil => exact hi
  | cons m rest ih => exact ih (hi.effect (effect_step m s))

/-! ## What is left behind -/

theorem Change.pending (h : Change s es t) (hc : s.queue.closed = true) :
    t.queue.closed = true ∧ es.filterMap Event.accepted? ++ t.producers <+~ s.producers := by
  cases h with
  | looked opened => cases opened.symm.trans hc
  | @accepted a before after asking =>
    refine ⟨hc, ?_⟩
    show a :: (before ++ after) <+~ s.producers
    rw [asking]
    exact List.perm_middle.symm.subperm
  | refused fewer => exact ⟨hc, fewer.subperm⟩
  | closed => exact ⟨rfl, .refl _⟩
  | dropped =>
    rw [filterMap_dropped_none fun _ => rfl]
    exact ⟨hc, .refl _⟩
  | _ => exact ⟨hc, .refl _⟩

/-- After a shutdown only producers put items in that have looked before. -/
theorem pending_run (hc : s.queue.closed = true) (moves : List (Move α)) :
    (s.run moves).1.queue.closed = true ∧
      (s.run moves).2.filterMap Event.accepted? ++ (s.run moves).1.producers <+~ s.producers := by
  induction moves generalizing s with
  | nil => exact ⟨hc, .refl _⟩
  | cons m rest ih =>
    obtain ⟨hc', hstep⟩ := (change_step m s).pending hc
    obtain ⟨hclosed, hrest⟩ := ih hc'
    refine ⟨hclosed, ?_⟩
    rw [run, List.filterMap_append, List.append_assoc]
    exact ((List.subperm_append_left _).2 hrest).trans hstep

theorem step_of_dropping (hp : s.phase = .dropping) :
    s.step .advance = ({ s with queue := { s.queue with items := [] }, phase := .leaving },
      s.queue.items.map .dropped) := by
  simp [step, advance, hp]

/-- A scheduler drops what waits in one move. -/
theorem swept_step (m : Move α) (s : Scheduler α) :
    (s.step m).1.phase.swept = true ↔
      s.phase.swept = true ∨ (m = .advance ∧ s.phase = .dropping) := by
  cases m with
  | advance => grind [step, advance, Phase.swept]
  | enqueue a => grind [step, enqueue]
  | push i => grind [step, push]
  | pushContended i => grind [step, pushContended]
  | taskStep i => grind [step, taskStep]
  | _ => grind [step, advanceContended, spawnFails, workEnds, Phase.swept]

/-- How items are left behind in moves on a new queue: producers that had looked for a shutdown before
there was one put them in after the drop. -/
def LeftBehind (settings : QueueSettings) (moves : List (Move α)) (items : List α) : Prop :=
  ∃ before after d, moves = before ++ .advance :: after ∧
    d = (run { queue := { settings } } before).1 ∧ d.phase = .dropping ∧
    items = ((d.step .advance).1.run after).2.filterMap Event.accepted? ∧ items <+~ d.producers

theorem left_behind {moves : List (Move α)}
    (h : (run { queue := { settings } } moves).1.phase.swept = true) :
    LeftBehind settings moves (run { queue := { settings } } moves).1.queue.items := by
  obtain hnew | ⟨before, m, after, rfl, rfl, hdropping⟩ :=
    (run_iff (P := fun s => s.phase.swept = true) swept_step _ _).1 h
  · cases hnew
  · let d := (run { queue := { settings } } before).1
    have hstep := step_of_dropping (s := d) hdropping
    have hclosed : d.queue.closed = true :=
      ((inv_new settings).run before).closed (by rw [hdropping]; rfl)
    have hitems : (run { queue := { settings } } (before ++ .advance :: after)).1.queue.items =
        ((d.step .advance).1.run after).2.filterMap Event.accepted? := by
      rw [run_append]
      exact (accounts_run (d.step .advance).1 after).left_over (by rw [hstep]; rfl) (by rw [hstep])
    refine ⟨before, after, d, rfl, rfl, hdropping, hitems, ?_⟩
    rw [hitems]
    have hpending := (pending_run (s := (d.step .advance).1) (by rw [hstep]; exact hclosed) after).2
    rw [show (d.step .advance).1.producers = d.producers by rw [hstep]] at hpending
    exact (List.sublist_append_left ..).subperm.trans hpending

/-- Just when a producer has looked and not put its item in, an item can be left behind. -/
theorem leaves_iff (hp : s.phase = .dropping) (hc : s.queue.closed = true) :
    (∃ later, (s.run (.advance :: later)).1.phase = .stopped ∧
      (s.run (.advance :: later)).1.queue.items ≠ []) ↔ s.producers ≠ [] := by
  have hstep := step_of_dropping hp
  have hswept : (s.step .advance).1.phase.swept = true := by rw [hstep]; rfl
  constructor
  · rintro ⟨later, -, hitems⟩ hnone
    have hpending := (pending_run (s := (s.step .advance).1) (by rw [hstep]; exact hc) later).2
    rw [show (s.step .advance).1.producers = [] by rw [hstep]; exact hnone,
      List.subperm_nil, List.append_eq_nil_iff] at hpending
    refine hitems ?_
    rw [show (s.run (.advance :: later)).1 = ((s.step .advance).1.run later).1 from rfl,
      (accounts_run _ later).left_over hswept (by rw [hstep]), hpending.1]
  · intro hsome
    obtain ⟨a, rest, hproducers⟩ := List.exists_cons_of_ne_nil hsome
    -- the queue is empty now, so that there is room
    refine ⟨[.push 0, .advance], ?_⟩
    rw [show (s.run [.advance, .push 0, .advance]).1 = ((s.step .advance).1.run [.push 0, .advance]).1
      from rfl, hstep]
    have hroom : ({ s.queue with items := [] } : WorkQueue α).full = false := by
      simp [WorkQueue.full]
      omega
    simp [run, step, push, WorkQueue.push, hproducers, hroom, advance]

/-! ## Conservation -/

/-- A refusal changes nothing but its count, and its producer is gone. -/
theorem Change.eq_of_refused (h : Change s es t) (he : es = [.refused a e]) :
    ∃ producers : List α, producers.Sublist s.producers ∧
      t = { s with queue := { s.queue with rejected := s.queue.rejected + 1 }, producers } := by
  cases h with
  | refused fewer => exact ⟨_, fewer, rfl⟩
  | dropped =>
    obtain ⟨b, -, hb⟩ := List.map_eq_singleton_iff.1 he
    cases hb
  | _ => cases he

theorem abandoned_step {m : Move α} (h : m ≠ .spawnFails) (s : Scheduler α) :
    (s.step m).2.filterMap Event.abandoned? = [] := by
  cases m with
  | spawnFails => exact absurd rfl h
  | advance =>
    by_cases hp : s.phase = .dropping
    · rw [step_of_dropping hp]
      exact filterMap_dropped_none (fun _ => rfl) _
    · simp only [step, advance]
      split
      all_goals first | rfl | (split <;> rfl) | contradiction
  | enqueue a =>
    simp only [step, enqueue]
    split <;> rfl
  | push i =>
    simp only [step, push]
    split
    · rfl
    · split <;> rfl
  | pushContended i =>
    simp only [step, pushContended]
    split <;> rfl
  | taskStep i =>
    simp only [step, taskStep]
    split
    · rfl
    · split <;> rfl
  | workEnds panics =>
    simp only [step, workEnds]
    split
    · cases panics <;> rfl
    · rfl
  | start =>
    simp only [step]
    split <;> rfl
  | advanceContended => grind [step, advanceContended]
  | setBlocked b => rfl
  | shutDown => rfl

theorem abandoned_run {moves : List (Move α)} (h : .spawnFails ∉ moves) (s : Scheduler α) :
    (s.run moves).2.filterMap Event.abandoned? = [] := by
  induction moves generalizing s with
  | nil => rfl
  | cons m rest ih =>
    obtain ⟨hm, hrest⟩ : .spawnFails ≠ m ∧ .spawnFails ∉ rest := by simpa using h
    simp [run, abandoned_step hm.symm s, ih hrest]

theorem perm_done (es : List (Event α)) :
    es.filterMap Event.done? ~ es.filterMap Event.ended? ++ es.filterMap Event.abandoned? := by
  induction es with
  | nil => exact .refl _
  | cons x rest ih =>
    cases x with
    | ended a => exact ih.cons a
    | abandoned a => exact (ih.cons a).trans List.perm_middle.symm
    | _ => exact ih

theorem existsUnique_place {held : Place → List α} (hn : (Place.all.flatMap held).Nodup)
    (ha : a ∈ Place.all.flatMap held) : ∃! p, a ∈ held p := by
  obtain ⟨p, -, hp⟩ := List.mem_flatMap.1 ha
  refine ⟨p, hp, fun q hq => ?_⟩
  by_contra hne
  have : Std.Symm (Function.onFun List.Disjoint held) := ⟨fun _ _ h _ hp hq => h hq hp⟩
  have hapart := (List.nodup_flatMap.1 hn).2
  exact hapart.forall (Place.mem_all q) (Place.mem_all p) hne hq hp

/-- What holds after moves with these events on a new queue: the items leave it in the order in which
they were accepted, and each is in one place. None is in anybody's hands when the scheduler has
returned, and what is left in the queue came after the drop. -/
structure Conserved (settings : QueueSettings) (moves : List (Move α)) (s : Scheduler α)
    (es : List (Event α)) : Prop where
  order : es.filterMap Event.accepted? =
    es.filterMap Event.taken? ++ es.filterMap Event.dropped? ++ s.queue.items
  places : es.filterMap Event.accepted? ~ Place.all.flatMap (s.itemsAt es)
  apart : (es.filterMap Event.accepted?).Nodup →
    ∀ a ∈ es.filterMap Event.accepted?, ∃! p, a ∈ s.itemsAt es p
  spawned : .spawnFails ∉ moves → s.itemsAt es .abandoned = []
  rejected : s.queue.rejected = (es.filterMap Event.refused?).length
  bound : 0 < settings.capacity → s.queue.items.length ≤ settings.capacity
  returned : s.phase = .stopped →
    s.inFlight = [] ∧ s.queue.running = 0 ∧ ∀ x ∈ s.tasks, x.stage = .freed
  left : s.phase = .stopped → LeftBehind settings moves s.queue.items

theorem Accounts.order {settings : QueueSettings} (h : Accounts { queue := { settings } } es s) :
    es.filterMap Event.accepted? =
      es.filterMap Event.taken? ++ es.filterMap Event.dropped? ++ s.queue.items := by
  rw [← h.left, ← h.queue]
  rfl

theorem Accounts.taken {settings : QueueSettings} (h : Accounts { queue := { settings } } es s) :
    es.filterMap Event.taken? ~
      s.inFlight ++ (es.filterMap Event.ended? ++ es.filterMap Event.abandoned?) :=
  h.hands.trans ((perm_done es).append_left _)

theorem Accounts.places {settings : QueueSettings} (h : Accounts { queue := { settings } } es s) :
    es.filterMap Event.accepted? ~ Place.all.flatMap (s.itemsAt es) := by
  calc es.filterMap Event.accepted?
      = es.filterMap Event.taken? ++ es.filterMap Event.dropped? ++ s.queue.items := h.order
    _ ~ s.queue.items ++ (es.filterMap Event.taken? ++ es.filterMap Event.dropped?) :=
        List.perm_append_comm
    _ ~ s.queue.items ++ ((s.inFlight ++ (es.filterMap Event.ended? ++
          es.filterMap Event.abandoned?)) ++ es.filterMap Event.dropped?) :=
        .append_left _ (h.taken.append_right _)
    _ = Place.all.flatMap (s.itemsAt es) := by
        simp [Place.all, itemsAt]

theorem Inv.returned (hi : Inv settings s) (h : s.phase = .stopped) :
    s.inFlight = [] ∧ s.queue.running = 0 ∧ ∀ x ∈ s.tasks, x.stage = .freed := by
  have hrun : s.queue.running = 0 := hi.drained (by rw [h]; rfl)
  have hfreed : ∀ x ∈ s.tasks, x.stage = .freed := by
    have hbusy := hi.busy.symm.trans hrun
    rw [Scheduler.busy, h] at hbusy
    simpa [Phase.places] using hbusy
  refine ⟨?_, hrun, hfreed⟩
  have htasks : s.tasks.filterMap Task.item? = [] := by
    rw [List.filterMap_eq_nil_iff]
    intro x hx
    rw [Task.item?, hfreed x hx]
    rfl
  rw [inFlight, h, htasks]
  rfl

/-- However a new queue is set up and whatever moves follow, its items are conserved, and a call that
is refused leaves everything but the count of refusals as it is. Just when a producer has looked for a
shutdown before there was one, and has not put its item in by the drop, the scheduler can return and
leave an item behind. -/
theorem run_conserves {moves : List (Move α)} (h : run { queue := { settings } } moves = (s, es)) :
    Conserved settings moves s es ∧
      (∀ m a e, (s.step m).2 = [.refused a e] → ∃ producers : List α,
        producers.Sublist s.producers ∧
          (s.step m).1 =
            { s with queue := { s.queue with rejected := s.queue.rejected + 1 }, producers }) ∧
      (s.phase = .dropping →
        ((∃ later, (s.run (.advance :: later)).1.phase = .stopped ∧
          (s.run (.advance :: later)).1.queue.items ≠ []) ↔ s.producers ≠ [])) := by
  have haccounts : Accounts { queue := { settings } } es s := by
    simpa only [h] using accounts_run { queue := { settings } } moves
  have hinv : Inv settings s := by
    simpa only [h] using (inv_new settings).run moves
  refine ⟨⟨haccounts.order, haccounts.places, fun hn a ha => ?_, fun hspawned => ?_, ?_, hinv.bound,
    hinv.returned, fun hstopped => ?_⟩, fun m a e he => (change_step m s).eq_of_refused he,
    fun hdropping => leaves_iff hdropping (hinv.closed (by rw [hdropping]; rfl))⟩
  · have hperm := haccounts.places
    exact existsUnique_place (hperm.nodup_iff.1 hn) (hperm.mem_iff.1 ha)
  · show es.filterMap Event.abandoned? = []
    simpa only [h] using abandoned_run hspawned { queue := { settings } }
  · rw [haccounts.rejected]
    exact Nat.zero_add _
  · have hswept : (run { queue := { settings } } moves).1.phase.swept = true := by
      rw [h, hstopped]
      rfl
    simpa only [h] using left_behind hswept

/-- Room for two items, and for one task at a time: of seven items one is worked on, three are refused,
two are dropped at the end, and one is left behind, as its producer looked before the shutdown and put
it in after the drop. -/
theorem left_at_return :
    let settings : QueueSettings := { multitask := true, maxTasks := 1, capacity := 2 }
    let moves : List (Move Nat) :=
      [.start, .enqueue 1, .push 0, .enqueue 2, .push 0, .enqueue 3, .push 0, .advance, .advance,
        .advance, .advance, .advance, .enqueue 4, .pushContended 0, .advance, .advance, .enqueue 5,
        .enqueue 6, .shutDown, .enqueue 7, .advance, .taskStep 0, .push 1, .taskStep 0, .advance,
        .advance, .push 0, .advance]
    let r := run { queue := { settings } } moves
    Conserved settings moves r.1 r.2 ∧ r.1.phase = .stopped ∧ r.1.itemsAt r.2 .finished = [1] ∧
      r.1.itemsAt r.2 .dropped = [2, 6] ∧ r.1.queue.rejected = 3 ∧ r.1.queue.items = [5] := by
  intro settings moves r
  exact ⟨(run_conserves (Prod.eta r).symm).1, by decide, by decide, by decide, by decide, by decide⟩

end Scheduler

end Multilink
