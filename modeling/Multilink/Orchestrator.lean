import Multilink.Clock
import Multilink.Peer.Basic
/-!
# Awake windows

A node alternates between an awake window and a sleep. Work may ask for more awake time, but a
window never reaches twice its nominal length by such requests. `takeControl` runs the window out
and sleeps; `giveControl` asks another node when it listens next and sleeps until then.

Time is virtual: waiting for the deadline moves the clock to the deadline, and sleeping moves it by
the time slept.
-/

namespace Multilink

/-- The timings of a node, in microseconds. -/
structure Timings where
  /-- The nominal length of an awake window. -/
  awake : Nat := 5000000
  /-- The sleep between windows. -/
  sleep : Nat := 30000000
  /-- How long after the start of another node's window to wake. -/
  wakeMargin : Nat := 50000
  /-- How often to ask another node for its window. -/
  whenRetries : Nat := 3
  /-- How long to wait for each answer. -/
  whenTimeout : Nat := 500000
  /-- How long to sleep if no answer comes. -/
  retrySleep : Nat := 10000000
  /-- How much more time a veto asks for. -/
  vetoSlice : Nat := 500000
  deriving DecidableEq, Repr

/-- The current awake window. -/
structure AwakeWindow where
  /-- When it began. -/
  start : Micros
  /-- When it ends. -/
  deadline : Micros
  /-- How many sleeps have been completed. -/
  cycles : Nat := 0
  deriving DecidableEq, Repr

/-- The awake windows of one node, with its clock. -/
structure Orchestrator where
  timings : Timings := {}
  /-- The clock of the node. -/
  clock : Micros
  /-- The current window. -/
  window : AwakeWindow
  /-- Has it been stopped? -/
  stopped : Bool := false
  /-- The sleeps asked of the power control, in microseconds, first in first. -/
  sleeps : List Nat := []
  /-- How often the hook has been called. -/
  hookCalls : Nat := 0
  deriving DecidableEq, Repr

/-- A hook before a sleep: does it veto the sleep? It is called with nothing locked, so that it may
act on the orchestrator before it answers, as anyone may. -/
abbrev Hook := Orchestrator → Bool × Orchestrator

/-- What happens around a node that runs its window out. -/
structure Surroundings where
  /-- The hook that is called before a sleep. -/
  hook : Option Hook := none
  /-- Does a stop come in while the wait for the deadline goes on that begins here? -/
  stopInWait : Orchestrator → Bool := fun _ => false

/-- What a hook that follows a script does. -/
structure HookAnswer where
  /-- Does it veto the sleep? -/
  veto : Bool := false
  /-- Does it stop the orchestrator, before it answers? -/
  stop : Bool := false
  deriving DecidableEq, Repr

/-- What running a window out came to. -/
structure SleepReport where
  /-- The time spent awake. -/
  awake : Micros
  /-- The time slept. -/
  slept : Nat
  /-- The vetoes of the hook. -/
  vetoes : UInt32
  /-- Was the sleep taken in spite of a veto? -/
  forced : Bool
  deriving DecidableEq, Repr

/-- What asking another node for its window came to. -/
inductive Alignment where
  /-- Slept until the window of the other node, which lasts for `awake`. -/
  | aligned (slept : Micros) (awake : Micros)
  /-- No answer came. -/
  | noAnswer (slept : Nat)
  deriving DecidableEq, Repr

namespace Orchestrator

/-- An orchestrator whose first window begins now. -/
def make (timings : Timings) (clock : Micros) : Orchestrator :=
  { timings, clock, window := ⟨clock, clock.plus (.ofNat timings.awake), 0⟩ }

/-- Begins the current window anew. -/
def startWindow (o : Orchestrator) : Orchestrator :=
  { o with
    window :=
      { o.window with start := o.clock, deadline := o.clock.plus (.ofNat o.timings.awake) } }

/-- The length that the window would have, so far as it has passed and as it lies ahead, with some
more time. -/
def totalWith (o : Orchestrator) (extra : Micros) : Micros :=
  ((o.clock.minus o.window.start).plus (o.window.deadline.minus o.clock)).plus extra

/-- Asks for more time. It is granted if the window stays below twice its nominal length. -/
def askForTime (extra : Nat) (o : Orchestrator) : Bool × Orchestrator :=
  let more := Micros.ofNat extra
  if o.totalWith more < (Micros.ofNat o.timings.awake).twice then
    (true,
      { o with window := { o.window with deadline := (max o.window.deadline o.clock).plus more } })
  else (false, o)

/-- How long it is until the next window, and how long that lasts. -/
def nextWindow (o : Orchestrator) : Micros × Micros :=
  ((o.window.deadline.minus o.clock).plus (.ofNat o.timings.sleep), .ofNat o.timings.awake)

/-- Stops the orchestrator: waits end. -/
def stop (o : Orchestrator) : Orchestrator :=
  { o with stopped := true }

/-- Waits for the deadline; `false` if it was stopped, or is stopped in the wait. -/
def waitForDeadline (stopComes : Bool) (o : Orchestrator) : Bool × Orchestrator :=
  if o.stopped then (false, o)
  else if o.window.deadline ≤ o.clock then (true, o)
  else if stopComes then (false, o.stop)
  else (true, { o with clock := o.window.deadline })

/-- Calls the hook, if there is one; does it veto the sleep? -/
def callHook (hook : Option Hook) (o : Orchestrator) : Bool × Orchestrator :=
  match hook with
  | none => (false, o)
  | some f => ((f o).1, { (f o).2 with hookCalls := o.hookCalls + 1 })

/-- Sleeps: the clock moves on, wrapping as it does at its largest value. -/
def sleepFor (duration : Nat) (o : Orchestrator) : Orchestrator :=
  { o with clock := o.clock + .ofNat duration, sleeps := o.sleeps ++ [duration] }

/-- Completes a cycle: a window of this length begins now. -/
def beginCycle (awake : Micros) (o : Orchestrator) : Orchestrator :=
  { o with window := ⟨o.clock, o.clock.plus awake, o.window.cycles + 1⟩ }

/-- The time since the window began. -/
def awakeSoFar (o : Orchestrator) : Micros :=
  o.clock.minus o.window.start

/-- Sleeps, and begins the next window. -/
def sleepAndBegin (vetoes : UInt32) (forced : Bool) (o : Orchestrator) : SleepReport × Orchestrator :=
  (⟨o.awakeSoFar, o.timings.sleep, vetoes, forced⟩,
    (o.sleepFor o.timings.sleep).beginCycle (.ofNat o.timings.awake))

/-- Runs the window out and sleeps. A veto of the hook asks for a little more time; once that is
refused the node sleeps all the same. The count of vetoes wraps. `fuel` bounds the waits for the
deadline; `none` if they are used up. -/
def takeControl (around : Surroundings) :
    Nat → UInt32 → Orchestrator → Option (SleepReport × Orchestrator)
  | 0, _, _ => none
  | fuel + 1, vetoes, o =>
    match o.waitForDeadline (around.stopInWait o) with
    | (false, o) => some (⟨o.awakeSoFar, 0, vetoes, false⟩, o)
    | (true, o) =>
      match o.callHook around.hook with
      | (false, o) => some (o.sleepAndBegin vetoes false)
      | (true, o) =>
        match o.askForTime o.timings.vetoSlice with
        | (true, o) => takeControl around fuel (vetoes + 1) o
        | (false, o) => some (o.sleepAndBegin (vetoes + 1) true)

/-- A hook that gives these answers in turn and then allows every sleep. -/
def scripted (answers : List HookAnswer) : Hook := fun o =>
  let answer := answers[o.hookCalls]?.getD {}
  (answer.veto, { o with stopped := o.stopped || answer.stop })

theorem callHook_scripted {answers : List HookAnswer} {o o' : Orchestrator}
    (h : o.callHook (some (scripted answers)) = (true, o')) :
    o.hookCalls < answers.length ∧ o'.hookCalls = o.hookCalls + 1 := by
  simp only [callHook, scripted, Prod.mk.injEq] at h
  obtain ⟨hv, rfl⟩ := h
  refine ⟨Nat.lt_of_not_le fun hle => ?_, rfl⟩
  rw [List.getElem?_eq_none hle] at hv
  cases hv

theorem waitForDeadline_hookCalls (stopComes : Bool) (o : Orchestrator) :
    (o.waitForDeadline stopComes).2.hookCalls = o.hookCalls := by
  unfold waitForDeadline
  split
  · rfl
  · split
    · rfl
    · split <;> rfl

theorem askForTime_hookCalls (extra : Nat) (o : Orchestrator) :
    (o.askForTime extra).2.hookCalls = o.hookCalls := by
  simp only [askForTime]
  split <;> rfl

/-- A hook that vetoes finitely often lets the node sleep in the end. -/
theorem takeControl_scripted_isSome (answers : List HookAnswer) (fuel : Nat) (vetoes : UInt32)
    (o : Orchestrator) (h : answers.length < fuel + o.hookCalls) :
    (takeControl { hook := some (scripted answers) } fuel vetoes o).isSome ∨ fuel = 0 := by
  induction fuel generalizing vetoes o with
  | zero => exact .inr rfl
  | succ fuel ih =>
    refine .inl ?_
    have hw := waitForDeadline_hookCalls false o
    unfold takeControl
    split
    · rfl
    · next o₁ h₁ =>
      rw [h₁] at hw
      split
      · rfl
      · next o₂ h₂ =>
        obtain ⟨hlt, hcalls⟩ := callHook_scripted h₂
        have ha := askForTime_hookCalls o₂.timings.vetoSlice o₂
        split
        · next o₃ h₃ =>
          rw [h₃] at ha
          dsimp only at hw ha
          rcases ih (vetoes + 1) o₃ (by omega) with hs | rfl
          · exact hs
          · omega
        · rfl

/-- Runs the window out and sleeps, under a hook that gives these answers in turn, or no hook. -/
def takeControlWith (answers : Option (List HookAnswer)) (o : Orchestrator) :
    SleepReport × Orchestrator :=
  match answers with
  | none =>
    match o.waitForDeadline false with
    | (false, o) => (⟨o.awakeSoFar, 0, 0, false⟩, o)
    | (true, o) => o.sleepAndBegin 0 false
  | some answers =>
    (takeControl { hook := some (scripted answers) } (answers.length + 1) 0 o).get
      ((takeControl_scripted_isSome answers _ 0 o (by omega)).resolve_right (by omega))

/-- What `giveControl` needs of its state: the orchestrator in it, a way to ask the other node for
its window, and what is known about that window. -/
structure ControlLink (σ : Type) where
  orchestrator : σ → Orchestrator
  /-- Replaces the orchestrator. -/
  put : σ → Orchestrator → σ
  /-- Asks the other node; could the question be sent? -/
  ask : σ → Bool × σ
  /-- What is known about the next window of the other node. -/
  known : σ → Option Availability

/-- Sleeps for the retry time and begins a nominal window. -/
def sleepUnanswered {σ : Type} (link : ControlLink σ) (s : σ) : Alignment × σ :=
  let o := link.orchestrator s
  (.noAnswer o.timings.retrySleep,
    link.put s ((o.sleepFor o.timings.retrySleep).beginCycle (.ofNat o.timings.awake)))

/-- Asks another node for its window, at most so many times, and sleeps until the margin after it
begins. Only what was learned since the question was asked counts as an answer. Without an answer
the node sleeps for its retry time. -/
def giveControl {σ : Type} (link : ControlLink σ) : Nat → σ → Alignment × σ
  | 0, s => sleepUnanswered link s
  | retries + 1, s =>
    if (link.orchestrator s).stopped then sleepUnanswered link s
    else
      let askedAt := (link.orchestrator s).clock
      match link.ask s with
      | (false, s) => giveControl link retries s
      | (true, s) =>
        match (link.known s).filter (askedAt ≤ ·.updated) with
        | none => giveControl link retries s
        | some a =>
          let o := link.orchestrator s
          let slept := (a.next.plus (.ofNat o.timings.wakeMargin)).minus o.clock
          (.aligned slept a.awake, link.put s ((o.sleepFor slept.toNat).beginCycle a.awake))

/-- One attempt of a scripted link: what happens when the other node is asked. -/
structure Attempt where
  /-- How far the clock moves. -/
  advance : Micros := 0
  /-- What is learned about the other node's window. -/
  answer : Option Availability := none
  /-- Is the orchestrator stopped? -/
  stops : Bool := false
  /-- Does the question fail to be sent? -/
  fails : Bool := false
  deriving DecidableEq, Repr

/-- An orchestrator with a scripted link. -/
structure Scripted where
  orchestrator : Orchestrator
  /-- What is known about the other node's window. -/
  known : Option Availability := none
  /-- The attempts to come; after the last one nothing happens when the other node is asked. -/
  attempts : List Attempt := []
  /-- How often the other node has been asked. -/
  asked : Nat := 0
  deriving DecidableEq, Repr

/-- Takes the next attempt of the script. -/
def Scripted.ask (s : Scripted) : Bool × Scripted :=
  let a := s.attempts.headD {}
  let o := { s.orchestrator with clock := s.orchestrator.clock + a.advance }
  (!a.fails,
    { orchestrator := if a.stops then o.stop else o
      known := a.answer.or s.known
      attempts := s.attempts.tail
      asked := s.asked + 1 })

/-- The link of a script. -/
def Scripted.link : ControlLink Scripted where
  orchestrator := Scripted.orchestrator
  put s o := { s with orchestrator := o }
  ask := Scripted.ask
  known := Scripted.known

end Orchestrator

end Multilink
