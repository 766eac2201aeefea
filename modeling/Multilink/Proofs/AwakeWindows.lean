import Multilink.Proofs.Rounds
/-!
# The timebox of an awake window

Requests for more time never bring a window to twice its nominal length, nor does any other use of
an orchestrator, with one exception: `giveControl` opens a window of the length that the other node
announced, which nothing limits. So a window leaves its timebox exactly if it was opened that way
and the announced length does not fit (`Orchestrator.timebox_iff`).

`Uses` is about what can be done to an orchestrator, by hooks as well, and follows the way in which its
current window was opened. `Run` are the states that this leads to, and `Opened` is what carries the
induction.
-/

namespace Multilink

namespace Orchestrator

/-- How the current window was opened. -/
inductive Opening where
  /-- With the nominal length. -/
  | nominal
  /-- With the length that another node announced. -/
  | announced (awake : Micros)

/-- The window that an attempt to align with another node ends in. -/
def opening : Alignment → Opening
  | .aligned _ awake => .announced awake
  | .noAnswer _ => .nominal

/-- A link that puts back the orchestrator it is given, and leaves the timings alone while the other
node is asked. Whatever else happens meanwhile is up to the link. -/
structure ControlLink.Lawful {σ : Type} (link : ControlLink σ) : Prop where
  put : ∀ s o, link.orchestrator (link.put s o) = o
  ask : ∀ s, (link.orchestrator (link.ask s).2).timings = (link.orchestrator s).timings

theorem Scripted.lawful : Scripted.link.Lawful where
  put _ _ := rfl
  ask s := by
    show (Scripted.ask s).2.orchestrator.timings = s.orchestrator.timings
    unfold Scripted.ask
    dsimp only
    split <;> rfl

/-- The way in which the window was opened that a run of `takeControl` ends in, if the current one was
opened in this way and each call of the hook leaves one that was opened as `opens` says. -/
def openingAfter (around : Surroundings) (opens : Opening → Orchestrator → Opening) :
    Nat → Opening → Orchestrator → Opening
  | 0, w, _ => w
  | fuel + 1, w, o =>
    if Stops around o then w
    else
      match o.round around 0 with
      | .inl _ => .nominal
      | .inr u => openingAfter around opens fuel (opens w o.awaited) u

/-- What can be done to an orchestrator, step by step: from one state, with the way in which its window
was opened, it leads to another. The hook of a node that runs its window out may do all this as well. -/
inductive Uses : Opening → Orchestrator → Opening → Orchestrator → Prop
  | refl {w : Opening} {o : Orchestrator} : Uses w o w o
  | startWindow {w w' : Opening} {o o' : Orchestrator} :
      Uses w o w' o' → Uses w o .nominal o'.startWindow
  | askForTime {w w' : Opening} {o o' : Orchestrator} (extra : Nat) :
      Uses w o w' o' → Uses w o w' (o'.askForTime extra).2
  | clock {w w' : Opening} {o o' : Orchestrator} (now : Micros) :
      Uses w o w' o' → Uses w o w' { o' with clock := now }
  | stop {w w' : Opening} {o o' : Orchestrator} : Uses w o w' o' → Uses w o w' o'.stop
  | takeControl {w w' : Opening} {o o' o'' : Orchestrator} {report : SleepReport}
      (around : Surroundings) (opens : Opening → Orchestrator → Opening) (fuel : Nat) :
      Uses w o w' o' → (∀ f, around.hook = some f → ∀ v u, Uses v u (opens v u) (f u).2) →
      o'.takeControl around fuel 0 = some (report, o'') →
      Uses w o (openingAfter around opens fuel w' o') o''
  | giveControl {w w' : Opening} {o : Orchestrator} {σ : Type} {link : ControlLink σ} {s s' : σ}
      {a : Alignment} (retries : Nat) :
      link.Lawful → Uses w o w' (link.orchestrator s) →
      Orchestrator.giveControl link retries s = (a, s') →
      Uses w o (opening a) (link.orchestrator s')

/-- The states of an orchestrator that was made with these timings at this time, each with the way
its current window was opened. -/
def Run (timings : Timings) (clock : Micros) : Opening → Orchestrator → Prop :=
  Uses .nominal (make timings clock)

/-- The window ends before twice its nominal length has passed since it began. -/
def InTimebox (o : Orchestrator) : Prop :=
  o.window.deadline.toNat < o.window.start.toNat + 2 * o.timings.awake

/-- A window opened this way is in its timebox exactly if it was when it began: if its length was
announced, this length decides. -/
structure Opened (timings : Timings) (w : Opening) (o : Orchestrator) : Prop where
  made : o.timings = timings
  ordered : o.window.start.toNat ≤ o.window.deadline.toNat
  inTimebox : o.InTimebox ↔ ∀ a, w = .announced a →
    (o.window.start.plus a).toNat < o.window.start.toNat + 2 * timings.awake

variable {timings : Timings} {w : Opening} {o o' : Orchestrator} {clock : Micros}

/-! ## Windows that begin -/

theorem Opened.nominal (hawake : 0 < timings.awake) (ht : o.timings = timings)
    (hd : o.window.deadline = o.window.start.plus (.ofNat timings.awake)) :
    Opened timings .nominal o := by
  have hstart := o.window.start.toNat_lt
  have hdeadline : o.window.deadline.toNat = _ := hd ▸ Micros.toNat_plus _ _
  have hlength := Micros.toNat_ofNat timings.awake
  refine ⟨ht, by omega, iff_of_true ?_ nofun⟩
  rw [InTimebox, ht]
  omega

theorem Opened.announced {a : Micros} (ht : o.timings = timings)
    (hd : o.window.deadline = o.window.start.plus a) : Opened timings (.announced a) o := by
  have hstart := o.window.start.toNat_lt
  have hdeadline : o.window.deadline.toNat = _ := hd ▸ Micros.toNat_plus _ _
  refine ⟨ht, by omega, ?_⟩
  rw [InTimebox, ht, hd]
  constructor
  · rintro h _ ⟨⟩
    exact h
  · exact fun h => h a rfl

theorem opened_make (hawake : 0 < timings.awake) : Opened timings .nominal (make timings clock) :=
  .nominal hawake rfl rfl

theorem Opened.startWindow (hawake : 0 < timings.awake) (h : Opened timings w o) :
    Opened timings .nominal o.startWindow :=
  .nominal hawake h.made (by rw [← h.made]; rfl)

theorem opened_sleepAndBegin (hawake : 0 < timings.awake) (ht : o.timings = timings) (vetoes : UInt32)
    (forced : Bool) : Opened timings .nominal (o.sleepAndBegin vetoes forced).2 :=
  .nominal hawake ht (by rw [← ht]; rfl)

/-! ## What happens within a window -/

/-- Nothing but the clock, the stop and the books has changed. -/
def Idles (o o' : Orchestrator) : Prop :=
  o'.timings = o.timings ∧ o'.window = o.window

theorem Opened.idle (h : Opened timings w o) (hi : Idles o o') : Opened timings w o' := by
  obtain ⟨ht, hw⟩ := hi
  refine ⟨ht.trans h.made, ?_, ?_⟩
  · rw [hw]
    exact h.ordered
  · rw [InTimebox, ht, hw]
    exact h.inTimebox

/-- What a request for more time comes to: the window stays as it is, or it ends later and is still
in its timebox. -/
theorem askForTime_cases (extra : Nat) (o : Orchestrator) :
    o.askForTime extra = (false, o) ∨
      ∃ deadline, o.askForTime extra = (true, { o with window := { o.window with deadline } }) ∧
        o.window.deadline.toNat ≤ deadline.toNat ∧
        (o.window.start.toNat ≤ o.window.deadline.toNat →
          deadline.toNat < o.window.start.toNat + 2 * o.timings.awake) := by
  unfold askForTime
  dsimp only
  split
  · next hlt =>
    refine .inr ⟨_, rfl, ?_⟩
    have hmax := Micros.toNat_max o.window.deadline o.clock
    have hdeadline := o.window.deadline.toNat_lt
    rw [Micros.toNat_plus, hmax]
    refine ⟨by omega, fun hordered => ?_⟩
    -- The limit, twice the nominal length or the largest time, is above the sum, which has therefore
    -- not reached the largest time itself.
    rw [UInt64.lt_iff_toNat_lt, totalWith, Micros.toNat_plus, Micros.toNat_plus,
      Micros.toNat_minus, Micros.toNat_minus, Micros.toNat_twice,
      Micros.toNat_ofNat o.timings.awake] at hlt
    omega
  · exact .inl rfl

theorem Opened.askForTime (h : Opened timings w o) (extra : Nat) :
    Opened timings w (o.askForTime extra).2 := by
  obtain he | ⟨deadline, he, hle, hlt⟩ := askForTime_cases extra o
  · rw [he]
    exact h
  · rw [he]
    have hin : deadline.toNat < o.window.start.toNat + 2 * o.timings.awake := hlt h.ordered
    -- The window was in its timebox before, as it ended earlier.
    have hbefore : o.InTimebox := by
      rw [InTimebox]
      omega
    exact ⟨h.made, Nat.le_trans h.ordered hle, iff_of_true hin (h.inTimebox.mp hbefore)⟩

/-! ## Running a window out, and aligning with another node -/

section

variable {around : Surroundings} {opens : Opening → Orchestrator → Opening}

/-- The hook keeps to what is known of windows. -/
def Keeps (timings : Timings) (around : Surroundings) (opens : Opening → Orchestrator → Opening) : Prop :=
  ∀ f, around.hook = some f → ∀ w o, Opened timings w o → Opened timings (opens w o) (f o).2

/-- With a hook, the window after its call is the one that it leaves; without one, nothing happens. -/
theorem Opened.answered (hkeeps : Keeps timings around opens) (h : Opened timings w o) :
    around.hook = none ∧ Opened timings w (o.answered around) ∨
      Opened timings (opens w o.awaited) (o.answered around) := by
  have hawaited : Opened timings w o.awaited := h.idle ⟨rfl, rfl⟩
  unfold Orchestrator.answered callHook
  cases hhook : around.hook with
  | none => exact .inl ⟨rfl, hawaited⟩
  | some f => exact .inr ((hkeeps f hhook _ _ hawaited).idle ⟨rfl, rfl⟩)

/-- Running a window out ends in a window that was opened as `openingAfter` says. -/
theorem Opened.takeControl (hawake : 0 < timings.awake) (hkeeps : Keeps timings around opens)
    {fuel : Nat} {vetoes : UInt32} {report : SleepReport} (h : Opened timings w o)
    (he : o.takeControl around fuel vetoes = some (report, o')) :
    Opened timings (openingAfter around opens fuel w o) o' := by
  induction fuel generalizing vetoes w o with
  | zero => cases he
  | succ fuel ih =>
    have hmade : (o.answered around).timings = timings :=
      (h.answered hkeeps).elim (·.2.made) (·.made)
    rw [takeControl_succ] at he
    unfold openingAfter
    by_cases hstops : Stops around o
    · rw [round_of_stops vetoes hstops] at he
      cases he
      rw [if_pos hstops]
      exact h.idle ⟨rfl, rfl⟩
    · rw [if_neg hstops]
      by_cases hvetoes : Vetoes around o
      · -- the hook has vetoed, so that there is one, and the next round begins
        have hround (v : UInt32) : o.round around v = .inr (o.answered around).extended :=
          round_eq_inr_iff.2 ⟨hstops, hvetoes, rfl⟩
        rw [hround] at he ⊢
        obtain ⟨hnone, -⟩ | hanswered := h.answered hkeeps
        · cases hnone ▸ isSome_hook_of_vetoed hvetoes.1
        · refine ih ?_ he
          have hasked := hanswered.askForTime (o.answered around).timings.vetoSlice
          rwa [askForTime_of_grants hvetoes.2] at hasked
      · obtain ⟨counted, forced, hround⟩ := round_of_not_vetoes vetoes hstops hvetoes
        obtain ⟨_, _, hround'⟩ := round_of_not_vetoes 0 hstops hvetoes
        rw [hround] at he
        cases he
        rw [hround']
        exact opened_sleepAndBegin hawake hmade counted forced

end

section

variable {σ : Type} {link : ControlLink σ}

/-- Sleeps until the margin after the window that was announced begins. -/
def sleepAligned (link : ControlLink σ) (a : Availability) (s : σ) : Alignment × σ :=
  let o := link.orchestrator s
  let slept := (a.next.plus (.ofNat o.timings.wakeMargin)).minus o.clock
  (.aligned slept a.awake, link.put s ((o.sleepFor slept.toNat).beginCycle a.awake))

/-- The node is not stopped, the question is sent, and then `a` is known and not older than it. -/
structure ControlLink.Answers (link : ControlLink σ) (s : σ) (a : Availability) : Prop where
  running : (link.orchestrator s).stopped = false
  sent : (link.ask s).1 = true
  known : link.known (link.ask s).2 = some a
  fresh : (link.orchestrator s).clock ≤ a.updated

theorem giveControl_of_stopped {s : σ} (hstopped : (link.orchestrator s).stopped = true) (n : Nat) :
    giveControl link n s = sleepUnanswered link s := by
  cases n with
  | zero => rfl
  | succ n => exact if_pos hstopped

/-- An answer ends the attempts, and without one they go on. -/
theorem giveControl_succ {s : σ} (hrunning : (link.orchestrator s).stopped = false) (n : Nat) :
    (∃ a, link.Answers s a ∧ giveControl link (n + 1) s = sleepAligned link a (link.ask s).2) ∨
      (∀ a, ¬ link.Answers s a) ∧
        giveControl link (n + 1) s = giveControl link n (link.ask s).2 := by
  have hgo : ¬ (link.orchestrator s).stopped = true := Bool.eq_false_iff.1 hrunning
  rw [giveControl, if_neg hgo]
  rcases hask : link.ask s with ⟨sent, t⟩
  have hsent : (link.ask s).1 = sent := congrArg Prod.fst hask
  have hafter : (link.ask s).2 = t := congrArg Prod.snd hask
  cases sent with
  | false =>
    refine .inr ⟨?_, rfl⟩
    intro a h
    cases hsent.symm.trans h.sent
  | true =>
    dsimp only
    split
    case h_1 hnone =>
      refine .inr ⟨?_, rfl⟩
      intro a h
      exact Option.filter_eq_none_iff.1 hnone a (hafter ▸ h.known) (decide_eq_true h.fresh)
    case h_2 a hsome =>
      obtain ⟨hknown, hfresh⟩ := Option.filter_eq_some_iff.1 hsome
      exact .inl ⟨a, ⟨hrunning, hsent, hafter ▸ hknown, of_decide_eq_true hfresh⟩, rfl⟩

theorem opened_sleepUnanswered (hawake : 0 < timings.awake) (hl : link.Lawful) {s : σ}
    (ht : (link.orchestrator s).timings = timings) :
    Opened timings (opening (sleepUnanswered link s).1)
      (link.orchestrator (sleepUnanswered link s).2) := by
  unfold sleepUnanswered
  dsimp only
  rw [hl.put]
  exact .nominal hawake ht (by rw [← ht]; rfl)

theorem opened_sleepAligned (hl : link.Lawful) {s : σ} (ht : (link.orchestrator s).timings = timings)
    (a : Availability) : Opened timings (opening (sleepAligned link a s).1)
      (link.orchestrator (sleepAligned link a s).2) := by
  unfold sleepAligned
  dsimp only
  rw [hl.put]
  exact .announced ht rfl

/-- Aligning always begins a window, whatever was known and whatever happened before. -/
theorem opened_giveControl (hawake : 0 < timings.awake) (hl : link.Lawful) (retries : Nat) (s : σ)
    (ht : (link.orchestrator s).timings = timings) :
    Opened timings (opening (giveControl link retries s).1)
      (link.orchestrator (giveControl link retries s).2) := by
  induction retries generalizing s with
  | zero => exact opened_sleepUnanswered hawake hl ht
  | succ retries ih =>
    have hasked := (hl.ask s).trans ht
    cases hstopped : (link.orchestrator s).stopped with
    | true =>
      rw [giveControl_of_stopped hstopped]
      exact opened_sleepUnanswered hawake hl ht
    | false =>
      obtain ⟨a, -, h⟩ | ⟨-, h⟩ := giveControl_succ hstopped retries
      · rw [h]
        exact opened_sleepAligned hl hasked a
      · rw [h]
        exact ih _ hasked

end

/-! ## Runs -/

theorem Uses.opened (hawake : 0 < timings.awake) {w' : Opening} (h : Uses w o w' o')
    (ho : Opened timings w o) : Opened timings w' o' := by
  induction h with
  | refl => exact ho
  | startWindow _ ih => exact (ih ho).startWindow hawake
  | askForTime extra _ ih => exact (ih ho).askForTime extra
  | clock _ _ ih => exact (ih ho).idle ⟨rfl, rfl⟩
  | stop _ ih => exact (ih ho).idle ⟨rfl, rfl⟩
  | takeControl around opens fuel _ _ he ih ihhook =>
    exact (ih ho).takeControl hawake (fun f hf w o => ihhook f hf w o) he
  | giveControl retries hl _ he ih =>
    have hw := opened_giveControl hawake hl retries _ (ih ho).made
    rw [he] at hw
    exact hw

theorem Run.opened (hawake : 0 < timings.awake) (h : Run timings clock w o) :
    Opened timings w o :=
  Uses.opened hawake h (opened_make hawake)

/-- Whatever is done to an orchestrator, its window ends before twice the nominal length has passed
since it began, unless it began with a longer length that another node announced. Such a window
stays outside its timebox until the next one begins. -/
theorem timebox_iff (hawake : 0 < timings.awake) (h : Run timings clock w o) :
    o.window.deadline.toNat < o.window.start.toNat + 2 * timings.awake ↔
      ∀ a, w = .announced a →
        (o.window.start.plus a).toNat < o.window.start.toNat + 2 * timings.awake := by
  have hw := h.opened hawake
  have hin := hw.inTimebox
  rwa [InTimebox, hw.made] at hin

/-- A node with short windows that asks another one for its window, and learns of a long one. -/
def aligning : Scripted where
  orchestrator := make { awake := 1000, sleep := 5000, wakeMargin := 0 } 0
  attempts := [{ answer := some ⟨0, 10000, 0⟩ }]

/-- The window of the node is then ten times as long as its nominal one. -/
theorem overlong_window :
    ∃ o, Run aligning.orchestrator.timings 0 (.announced 10000) o ∧ o.window = ⟨0, 10000, 1⟩ ∧
      ¬ o.window.deadline.toNat < o.window.start.toNat + 2 * aligning.orchestrator.timings.awake := by
  have hrun : Run aligning.orchestrator.timings 0 (.announced 10000)
      (giveControl Scripted.link 1 aligning).2.orchestrator :=
    .giveControl (s := aligning) (a := .aligned 0 10000) 1 Scripted.lawful .refl rfl
  refine ⟨_, hrun, rfl, fun hlt => ?_⟩
  exact absurd ((timebox_iff (by decide) hrun).mp hlt 10000 rfl) (by decide)

end Orchestrator

end Multilink
