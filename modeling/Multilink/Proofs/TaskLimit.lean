import Multilink.Proofs.Conservation
/-!
# The limit on tasks

Before it takes an item out, a scheduler looks for a free task; taking the item out, counting a task
for it and spawning that task are three more moves, and the end of a task is three. Whatever comes in
between, the tasks that run are never more than the limit, and none of them is forgotten by whoever
waits for an idle queue (`Scheduler.run_within_limit`). A task that cannot be spawned counts until the
scheduler has given it up, and its item is done then without having been worked on.

`Counted` is what the two counts of a queue say about its scheduler and its tasks, and `Limited` is
why the limit holds: a scheduler that has found a free task keeps it, as it alone begins tasks.
-/

namespace Multilink

namespace Phase

variable {α : Type}

/-- How many items are in flight because of the scheduler itself. -/
def load : Phase α → Nat
  | .dispatching _ | .spawning _ | .abandoning | .working _ | .landing | .crashed => 1
  | _ => 0

/-- Does the scheduler do the work itself, or has it failed at it? -/
def alone : Phase α → Bool
  | .working _ | .crashed => true
  | _ => false

/-- Does the scheduler begin a task? -/
def begins : Phase α → Bool
  | .spawning _ | .abandoning => true
  | _ => false

/-- Has the scheduler found a free task that it has not used yet? -/
def claims : Phase α → Bool
  | .taking | .dispatching _ => true
  | _ => false

end Phase

namespace Scheduler

open scoped List

variable {α : Type} {s t : Scheduler α} {es fs : List (Event α)}
variable {settings : QueueSettings} {k : Nat}

/-! ## The count of items in flight -/

structure Counted (s : Scheduler α) : Prop where
  inFlight : s.queue.inFlight = s.phase.load + s.tasks.length
  single : s.queue.settings.multitask = false → s.tasks = [] ∧ s.phase.begins = false
  multi : s.queue.settings.multitask = true → s.phase.alone = false

theorem counted_new (settings : QueueSettings) :
    Counted ({ queue := { settings } } : Scheduler α) :=
  ⟨rfl, fun _ => ⟨rfl, rfl⟩, fun _ => rfl⟩

theorem Turn.load {p : Phase α} (h : Turn s p) : p.load = s.phase.load := by
  cases h with
  | givesUp place => rcases place with hp | hp | hp <;> simp [hp, Phase.load]
  | _ => simp_all [Phase.load]

theorem Turn.begins {p : Phase α} (h : Turn s p) : p.begins = false := by
  cases h <;> rfl

theorem Turn.alone {p : Phase α} (h : Turn s p) (multi : s.queue.settings.multitask = true) :
    p.alone = false := by
  cases h with
  | works place single => cases multi.symm.trans single
  | _ => rfl

/-- Only a queue whose items run as tasks has tasks. -/
theorem Counted.multi_of_tasks (hc : Counted s) (h : s.tasks ≠ [] ∨ s.phase.begins = true) :
    s.queue.settings.multitask = true := by
  by_contra hm
  obtain ⟨htasks, hbegins⟩ := hc.single (by simpa using hm)
  rcases h with ht | hb
  · exact ht htasks
  · cases hbegins.symm.trans hb

theorem Counted.change (hc : Counted s) (h : Change s es t) : Counted t := by
  have hflight := hc.inFlight
  -- a move of a task, or of a scheduler that begins one, shows that the items run as tasks
  have hmulti (h : s.tasks ≠ [] ∨ s.phase.begins = true) {P : Prop} :
      s.queue.settings.multitask = false → P := fun hm => by
    cases hm.symm.trans (hc.multi_of_tasks h)
  cases h with
  | looked | accepted | refused | blocked | closed | rested => exact ⟨hflight, hc.single, hc.multi⟩
  | turned turn =>
    exact ⟨by rw [hflight, turn.load], fun h => ⟨(hc.single h).1, turn.begins⟩, turn.alone⟩
  | polled place =>
    exact ⟨by simpa [place, Phase.load] using hflight, fun h => ⟨(hc.single h).1, rfl⟩, fun _ => rfl⟩
  | taken place first =>
    refine ⟨?_, fun h => ⟨(hc.single h).1, rfl⟩, fun _ => rfl⟩
    simp only [place, Phase.load] at hflight ⊢
    omega
  | began place multi =>
    refine ⟨by simpa [place, Phase.load, WorkQueue.beginTask] using hflight, fun h => ?_, fun _ => rfl⟩
    cases multi.symm.trans h
  | spawned place =>
    refine ⟨?_, hmulti (.inr (by rw [place]; rfl)), fun _ => rfl⟩
    simp only [place, Phase.load, List.length_append, List.length_singleton] at hflight ⊢
    omega
  | abandoned place =>
    exact ⟨by simpa [place, Phase.load] using hflight, hmulti (.inr (by rw [place]; rfl)),
      fun _ => rfl⟩
  | forgone place =>
    exact ⟨by simpa [place, Phase.load, WorkQueue.freeTask] using hflight,
      hmulti (.inr (by rw [place]; rfl)), fun _ => rfl⟩
  | ended place =>
    exact ⟨by simpa [place, Phase.load, WorkQueue.countDone] using hflight, fun h => ⟨(hc.single h).1, rfl⟩, fun _ => rfl⟩
  | failed place =>
    refine ⟨by simpa [place, Phase.load] using hflight, fun h => ⟨(hc.single h).1, rfl⟩, fun h => ?_⟩
    have := hc.multi h
    simp [place, Phase.alone] at this
  | cleared place =>
    refine ⟨?_, fun h => ⟨(hc.single h).1, rfl⟩, fun _ => rfl⟩
    simp only [place, Phase.load, WorkQueue.land] at hflight ⊢
    omega
  | counted tasks | freed tasks =>
    refine ⟨?_, hmulti (.inl (by simp [tasks])), hc.multi⟩
    simpa [tasks, WorkQueue.countDone, WorkQueue.freeTask] using hflight
  | landed tasks =>
    refine ⟨?_, hmulti (.inl (by simp [tasks])), hc.multi⟩
    simp only [tasks, WorkQueue.land, List.length_append, List.length_cons] at hflight ⊢
    omega
  | dropped place =>
    exact ⟨by simpa [place, Phase.load] using hflight, fun h => ⟨(hc.single h).1, rfl⟩, fun _ => rfl⟩

theorem Counted.run (hc : Counted s) (moves : List (Move α)) : Counted (s.run moves).1 :=
  run_keeps (fun hc h => hc.change h) hc moves

theorem Counted.none_inFlight (hc : Counted s) (h : s.queue.inFlight = 0) : s.inFlight = [] := by
  have hflight := hc.inFlight
  obtain ⟨hload, htasks⟩ : s.phase.load = 0 ∧ s.tasks.length = 0 := by omega
  rw [Scheduler.inFlight, List.length_eq_zero_iff.1 htasks]
  cases hp : s.phase <;> simp_all [Phase.load, Phase.item?]

/-- What every run on a new queue comes to. -/
structure Reached (settings : QueueSettings) (s : Scheduler α) (es : List (Event α)) : Prop where
  accounts : Accounts { queue := { settings } } es s
  inv : Inv settings s
  counted : Counted s

theorem reached {moves : List (Move α)} (h : run { queue := { settings } } moves = (s, es)) :
    Reached settings s es := by
  constructor
  · simpa only [h] using accounts_run { queue := { settings } } moves
  · simpa only [h] using (inv_new settings).run moves
  · simpa only [h] using (counted_new settings).run moves

/-! ## The number of tasks -/

/-- With at most `k` tasks at once. -/
structure Limited (k : Nat) (s : Scheduler α) : Prop where
  running : s.queue.running ≤ k
  room : s.phase.claims = true → s.queue.running < k
  peak : s.queue.peakRunning ≤ k

theorem Limited.change (hl : Limited k s) (h : Change s es t)
    (multi : s.queue.settings.multitask = true) (max : s.queue.settings.maxTasks = k)
    (pos : 0 < k) : Limited k t := by
  obtain ⟨hrunning, hroom, hpeak⟩ := hl
  -- to give a place back takes none away from a claim
  have hle : s.queue.running - 1 ≤ s.queue.running := Nat.sub_le ..
  cases h with
  | turned turn =>
    refine ⟨hrunning, fun hclaims => ?_, hpeak⟩
    -- a place is claimed only after a look at the limit
    cases turn with
    | slotFound place free => simpa [WorkQueue.atTaskLimit, multi, max, pos] using free
    | _ => cases hclaims
  | taken place first => exact ⟨hrunning, fun _ => hroom (by rw [place]; rfl), hpeak⟩
  | began place =>
    have hlt := hroom (by rw [place]; rfl)
    exact ⟨hlt, nofun, Nat.max_le.2 ⟨hpeak, hlt⟩⟩
  | forgone => exact ⟨Nat.le_trans hle hrunning, nofun, hpeak⟩
  | freed tasks =>
    exact ⟨Nat.le_trans hle hrunning, fun hclaims => Nat.lt_of_le_of_lt hle (hroom hclaims), hpeak⟩
  | polled | spawned | abandoned | ended | failed | cleared | dropped =>
    exact ⟨hrunning, nofun, hpeak⟩
  | looked | accepted | refused | blocked | closed | rested | counted | landed =>
    exact ⟨hrunning, hroom, hpeak⟩

theorem Limited.run (hl : Limited settings.maxTasks s) (hi : Inv settings s)
    (multi : settings.multitask = true) (pos : 0 < settings.maxTasks) (moves : List (Move α)) :
    Limited settings.maxTasks (s.run moves).1 := by
  refine (run_keeps (P := fun s => Inv settings s ∧ Limited settings.maxTasks s) ?_ ⟨hi, hl⟩
    moves).2
  rintro s es t ⟨hi, hl⟩ h
  refine ⟨hi.effect h.effect, hl.change h ?_ ?_ pos⟩
  · rw [hi.configured, multi]
  · rw [hi.configured]

/-! ## Within the limit -/

/-- Whatever became of an item that was accepted, if none waits and none is in anybody's hands. -/
def settledItems (es : List (Event α)) : List α :=
  es.filterMap Event.ended? ++ es.filterMap Event.abandoned? ++ es.filterMap Event.dropped?

theorem Accounts.settled_of_idle (h : Accounts { queue := { settings } } es s)
    (empty : s.queue.items = []) (landed : s.inFlight = []) :
    es.filterMap Event.accepted? ~ settledItems es := by
  have htaken := h.taken
  rw [landed, List.nil_append] at htaken
  rw [h.order, empty, List.append_nil]
  exact htaken.append_right _

theorem Accounts.settled_of_looks (h : Accounts { queue := { settings } } es s)
    (empty : s.queue.items = []) (later : Accounts s fs t) (landed : t.inFlight = []) :
    es.filterMap Event.accepted? <+~
      (es ++ fs).filterMap Event.ended? ++ (es ++ fs).filterMap Event.abandoned? ++
        es.filterMap Event.dropped? := by
  have htaken := (h.trans later).taken
  rw [landed, List.nil_append] at htaken
  -- all that has been taken out is done by now, and no less has been taken out than before
  have hmore : es.filterMap Event.taken? <+ (es ++ fs).filterMap Event.taken? := by
    rw [List.filterMap_append]
    exact List.sublist_append_left ..
  rw [h.order, empty, List.append_nil]
  exact (hmore.append_right _).subperm.trans (htaken.append_right _).subperm

/-- What holds after moves with these events on a new queue whose items run as tasks. -/
structure WithinLimit (settings : QueueSettings) (moves : List (Move α)) (s : Scheduler α)
    (es : List (Event α)) : Prop where
  /-- The places of the tasks that have not freed theirs, and one for a task that the scheduler has
  counted, and has not spawned yet or not given up yet. -/
  running : s.queue.running = s.tasks.countP (·.stage ≠ .freed) + s.phase.places
  /-- Whoever is about to give a place back still has it. -/
  positive : (∃ x ∈ s.tasks, x.stage = .counted) ∨ s.phase = .abandoning → 0 < s.queue.running
  limit : 0 < settings.maxTasks →
    s.queue.running ≤ settings.maxTasks ∧ s.queue.peakRunning ≤ settings.maxTasks
  idle : s.queue.idle = true → es.filterMap Event.accepted? ~ settledItems es
  /-- Whoever waits for an idle queue looks at the items first, and later at what is in flight. -/
  looks : s.queue.items = [] → ∀ later t fs, s.run later = (t, fs) → t.queue.inFlight = 0 →
    es.filterMap Event.accepted? <+~
      (es ++ fs).filterMap Event.ended? ++ (es ++ fs).filterMap Event.abandoned? ++
        es.filterMap Event.dropped?
  abandoned : .spawnFails ∉ moves → es.filterMap Event.abandoned? = []
  dropped : s.queue.closed = false → es.filterMap Event.dropped? = []

theorem limited_new (settings : QueueSettings) (pos : 0 < k) :
    Limited k ({ queue := { settings } } : Scheduler α) :=
  ⟨Nat.zero_le _, fun _ => pos, Nat.zero_le _⟩

/-- Whatever moves follow, as many tasks are counted as run or are being spawned, they are never more
than the limit, and every item accepted has been settled when the queue is seen idle. -/
theorem run_within_limit (multi : settings.multitask = true) {moves : List (Move α)}
    (h : run { queue := { settings } } moves = (s, es)) :
    WithinLimit settings moves s es ∧ (.shutDown ∉ moves → s.queue.closed = false) := by
  obtain ⟨haccounts, hinv, hcounted⟩ := reached h
  refine ⟨⟨hinv.busy, ?_, ?_, ?_, ?_, ?_, ?_⟩, fun hmoves => ?_⟩
  · rw [hinv.busy, Scheduler.busy]
    rintro (⟨x, hx, hstage⟩ | hp)
    · exact Nat.add_pos_left (List.countP_pos_iff.2 ⟨x, hx, by simp [hstage]⟩) _
    · rw [hp]
      exact Nat.succ_pos _
  · intro pos
    have hlimited : Limited settings.maxTasks s := by
      simpa only [h] using (limited_new settings pos).run (inv_new settings) multi pos moves
    exact ⟨hlimited.running, hlimited.peak⟩
  · intro hidle
    obtain ⟨hitems, hflight⟩ : s.queue.items = [] ∧ s.queue.inFlight = 0 := by
      simpa [WorkQueue.idle] using hidle
    exact haccounts.settled_of_idle hitems (hcounted.none_inFlight hflight)
  · intro hitems later t fs hlater hflight
    have hthen : Accounts s fs t := by
      simpa only [hlater] using accounts_run s later
    have hcounted' : Counted t := by
      simpa only [hlater] using hcounted.run later
    exact haccounts.settled_of_looks hitems hthen (hcounted'.none_inFlight hflight)
  · intro hspawned
    simpa only [h] using abandoned_run hspawned { queue := { settings } }
  · intro hopen
    rcases haccounts.last with hnone | hswept
    · exact hnone
    · cases hopen.symm.trans (hinv.closed (Phase.ending_of_swept hswept))
  · simpa only [h] using closed_run hmoves { queue := { settings } }

/-- One task at a time: the second item has to wait until the first has ended, and after both the
queue is idle. -/
theorem one_at_a_time :
    let settings : QueueSettings := { multitask := true, maxTasks := 1 }
    let begins : List (Move Nat) := List.replicate 7 .advance
    let ends : List (Move Nat) := List.replicate 3 (.taskStep 0)
    let moves := [.start, .enqueue 1, .push 0, .enqueue 2, .push 0] ++ begins ++ begins ++ ends ++
      begins ++ ends
    let r := run { queue := { settings } } moves
    settings.multitask = true ∧ WithinLimit settings moves r.1 r.2 ∧
      r.1.queue.idle = true ∧ r.1.queue.peakRunning = 1 ∧ r.2.filterMap Event.ended? = [1, 2] := by
  intro settings begins ends moves r
  exact ⟨rfl, (run_within_limit rfl (Prod.eta r).symm).1, by decide, by decide, by decide⟩

/-- A task is counted before it runs. If it cannot be spawned, the queue is idle in the end, and its
item was accepted and never worked on; so was one that a shutdown came before. -/
theorem idle_unworked :
    let settings : QueueSettings := { multitask := true, maxTasks := 1 }
    let before : List (Move Nat) := [.start, .enqueue 1, .push 0] ++ List.replicate 6 .advance
    let moves := before ++ [.spawnFails, .advance, .advance]
    let ending : List (Move Nat) := [.start, .enqueue 1, .push 0, .shutDown, .advance, .advance, .advance]
    let r := run { queue := { settings } } before
    let s := run { queue := { settings } } moves
    let t := run { queue := { settings } } ending
    (r.1.queue.running = 1 ∧ r.1.tasks = []) ∧
      (s.1.queue.idle = true ∧ s.2.filterMap Event.accepted? = [1] ∧
        s.2.filterMap Event.ended? = []) ∧
      (t.1.queue.idle = true ∧ t.2.filterMap Event.accepted? = [1] ∧
        t.2.filterMap Event.ended? = []) := by
  decide

end Scheduler

end Multilink
