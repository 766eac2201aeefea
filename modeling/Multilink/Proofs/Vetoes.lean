import Multilink.Proofs.Rounds
import Multilink.Proofs.Construction
/-!
# Vetoes come to an end

A veto brings the deadline nearer to the end of the timebox by one slice. So a run ends, whatever the
hook answers, unless a slice is nothing or time itself ends before the timebox does. This takes a hook
that keeps the window: one that begins it anew whenever it is called keeps the node awake with any slice
(`Orchestrator.takeControl_ends_iff`).
-/

namespace Multilink

/-- The hook does not begin the window anew, and neither moves the clock nor changes the timings. It may
ask for more time, stop the node, and answer what it likes. -/
structure Hook.KeepsWindow (f : Hook) : Prop where
  timings : ∀ o, (f o).2.timings = o.timings
  clock : ∀ o, (f o).2.clock = o.clock
  start : ∀ o, (f o).2.window.start = o.window.start

/-- If there is a hook, it does not begin the window anew. -/
def Surroundings.KeepsWindow (around : Surroundings) : Prop :=
  ∀ f, around.hook = some f → f.KeepsWindow

namespace Orchestrator

variable {around : Surroundings} {n : Nat} {o : Orchestrator}

/-! ## Time left -/

/-- The length that no veto brings a window to. -/
def limit (o : Orchestrator) : Nat :=
  min (2 * o.timings.awake) Micros.top.toNat

/-- How much later than the end of this wait the timebox ends. -/
def left (o : Orchestrator) : Nat :=
  o.window.start.toNat + o.limit - o.due.toNat

/-- When the wait would end after ever so many more vetoes, if the timebox allowed them. -/
def latest (o : Orchestrator) : Micros :=
  if o.timings.vetoSlice = 0 then o.due else .top

/-- By then the timebox has no room left for another slice. -/
def Closes (o : Orchestrator) : Prop :=
  o.limit ≤ o.latest.toNat - o.window.start.toNat + o.timings.vetoSlice

theorem grants_iff (o : Orchestrator) : o.Grants ↔
    o.clock.toNat - o.window.start.toNat + (o.window.deadline.toNat - o.clock.toNat) +
      o.timings.vetoSlice < o.limit := by
  have hclock := o.clock.toNat_lt
  have hdeadline := o.window.deadline.toNat_lt
  rw [Grants, UInt64.lt_iff_toNat_lt, totalWith, Micros.toNat_plus, Micros.toNat_plus,
    Micros.toNat_minus, Micros.toNat_minus, Micros.toNat_twice, Micros.toNat_ofNat,
    Micros.toNat_ofNat, limit, Micros.toNat_top]
  omega

theorem Grants.lt_limit (h : o.Grants) :
    o.due.toNat - o.window.start.toNat + o.timings.vetoSlice < o.limit := by
  have hdue := toNat_due o
  rw [grants_iff] at h
  omega

/-- A veto that is granted moves the end of the wait by one slice, as far as times go. -/
theorem due_extended (o : Orchestrator) :
    o.extended.due.toNat = min (o.due.toNat + o.timings.vetoSlice) Micros.top.toNat := by
  have hdue := toNat_due o
  have hlt := o.due.toNat_lt
  rw [toNat_due, show o.extended.window.deadline = o.due.plus (.ofNat o.timings.vetoSlice) from rfl,
    show o.extended.clock = o.clock from rfl, Micros.toNat_plus, Micros.toNat_ofNat, Micros.toNat_top]
  omega

/-! ## Hooks that keep the window -/

/-- The window goes on, and this wait ends no sooner than the other would have. -/
structure PutOff (o u : Orchestrator) : Prop where
  timings : u.timings = o.timings
  start : u.window.start = o.window.start
  due : o.due.toNat ≤ u.due.toNat

namespace PutOff

variable {u : Orchestrator}

theorem answered (hkeeps : around.KeepsWindow) (o : Orchestrator) : PutOff o (o.answered around) := by
  unfold Orchestrator.answered callHook
  cases hhook : around.hook with
  | none =>
    refine ⟨rfl, rfl, ?_⟩
    rw [toNat_due o.awaited]
    exact Nat.le_max_right _ _
  | some f =>
    obtain ⟨htimings, hclock, hstart⟩ := hkeeps f hhook
    refine ⟨htimings _, hstart _, ?_⟩
    rw [toNat_due { (f o.awaited).2 with hookCalls := _ }]
    dsimp only
    rw [hclock]
    exact Nat.le_max_right _ _

theorem limit (h : PutOff o u) : u.limit = o.limit := by
  rw [Orchestrator.limit, h.timings, Orchestrator.limit]

/-- A timebox that closes still does when the window has been put off. -/
theorem closes (h : PutOff o u) (hcloses : o.Closes) : u.Closes := by
  have hdue := h.due
  rw [Closes, latest] at hcloses
  rw [Closes, latest, h.limit, h.start, h.timings]
  split at hcloses
  · next hslice =>
    rw [if_pos hslice]
    omega
  · next hslice =>
    rw [if_neg hslice]
    exact hcloses

end PutOff

theorem putOff_extended (o : Orchestrator) : PutOff o o.extended := by
  have hlt := o.due.toNat_lt
  refine ⟨rfl, rfl, ?_⟩
  rw [due_extended, Micros.toNat_top]
  omega

/-- A round calls the hook at most once, and only a veto that the timebox has room for leads to
another round. -/
theorem round_ends_or_grants (around : Surroundings) (vetoes : UInt32) (o : Orchestrator) :
    (∃ r, o.round around vetoes = .inl r ∧ r.2.hookCalls ≤ o.hookCalls + 1) ∨
      ((o.answered around).Grants ∧ o.round around vetoes = .inr (o.answered around).extended) := by
  have hcalls := hookCalls_answered_le around o
  obtain ⟨-, hround⟩ | ⟨-, -, hround⟩ | ⟨-, -, -, hround⟩ | ⟨-, -, hgrants, hround⟩ :=
    round_cases around vetoes o
  · exact .inl ⟨_, hround, Nat.le_succ _⟩
  · exact .inl ⟨_, hround, hcalls⟩
  · exact .inl ⟨_, hround, hcalls⟩
  · exact .inr ⟨hgrants, hround⟩

/-- If the timebox closes and what is left of it is so many slices, the run ends after as many
rounds. -/
theorem takeControl_of_left (hkeeps : around.KeepsWindow) (hcloses : o.Closes)
    (hslice : o.timings.vetoSlice ≠ 0) (hleft : o.left ≤ (n + 1) * o.timings.vetoSlice)
    (vetoes : UInt32) :
    ∃ report o', takeControl around (n + 1) vetoes o = some (report, o') ∧
      o'.hookCalls ≤ o.hookCalls + (n + 1) := by
  have hanswered := PutOff.answered hkeeps o
  have hdue := hanswered.due
  induction n generalizing o vetoes with
  | zero =>
    rw [takeControl_succ]
    obtain ⟨⟨report, o'⟩, hround, hcalls⟩ | ⟨hgrants, -⟩ := round_ends_or_grants around vetoes o
    · exact ⟨report, o', by rw [hround], hcalls⟩
    · have hlt := hgrants.lt_limit
      rw [hanswered.limit, hanswered.start, hanswered.timings] at hlt
      rw [left] at hleft
      omega
  | succ n ih =>
    rw [takeControl_succ]
    obtain ⟨⟨report, o'⟩, hround, hcalls⟩ | ⟨-, hround⟩ := round_ends_or_grants around vetoes o
    · exact ⟨report, o', by rw [hround], Nat.le_trans hcalls (by omega)⟩
    · rw [hround]
      let u := (o.answered around).extended
      have htimings : u.timings = o.timings := hanswered.timings
      have hstart : u.window.start = o.window.start := hanswered.start
      have hlimit : u.limit = o.limit := hanswered.limit
      have hcloses' : u.Closes := (putOff_extended _).closes (hanswered.closes hcloses)
      have hleft' : u.left ≤ (n + 1) * u.timings.vetoSlice := by
        have hbegan := o.window.start.toNat_lt
        have hended : u.due.toNat = _ := due_extended (o.answered around)
        rw [hanswered.timings, Micros.toNat_top] at hended
        rw [Closes, latest, if_neg hslice, Micros.toNat_top] at hcloses
        rw [left, Nat.add_mul, Nat.one_mul] at hleft
        rw [left, hstart, hlimit, htimings, hended]
        -- at the end of time one slice is all that the timebox has room for
        have hslices : o.timings.vetoSlice ≤ (n + 1) * o.timings.vetoSlice :=
          Nat.le_mul_of_pos_left _ (Nat.succ_pos n)
        omega
      have hnext := PutOff.answered hkeeps u
      obtain ⟨report, o', hrun, hcalls⟩ :=
        ih hcloses' (by rwa [htimings]) hleft' (vetoes + 1) hnext hnext.due
      have hcalled : u.hookCalls ≤ o.hookCalls + 1 := hookCalls_answered_le around o
      exact ⟨report, o', hrun, by omega⟩

/-- A timebox that closes ends the run, whatever the hook answers. -/
theorem takeControl_of_closes (hcloses : o.Closes) (hkeeps : around.KeepsWindow) :
    ∃ report o', o.takeControl around (o.left / o.timings.vetoSlice + 1) 0 = some (report, o') ∧
      o'.hookCalls ≤ o.hookCalls + (o.left / o.timings.vetoSlice + 1) := by
  by_cases hslice : o.timings.vetoSlice = 0
  · -- the timebox has no room left for nothing, so the first round is the last one
    rw [hslice, Nat.div_zero, takeControl_succ]
    obtain ⟨⟨report, o'⟩, hround, hcalls⟩ | ⟨hgrants, -⟩ := round_ends_or_grants around 0 o
    · exact ⟨report, o', by rw [hround], hcalls⟩
    · have hanswered := PutOff.answered hkeeps o
      have hdue := hanswered.due
      have hlt := hgrants.lt_limit
      rw [hanswered.limit, hanswered.start, hanswered.timings] at hlt
      rw [Closes, latest, if_pos hslice] at hcloses
      omega
  · refine takeControl_of_left hkeeps hcloses hslice ?_ 0
    have hlt := Nat.lt_mul_div_succ o.left (Nat.pos_of_ne_zero hslice)
    rw [Nat.mul_comm] at hlt
    exact Nat.le_of_lt hlt

/-! ## Hooks that keep the node awake -/

/-- If every state of a kind is not stopped, has its sleep vetoed and its slice granted, and leads to a
state of this kind, a run from there has no end. -/
theorem takeControl_of_forever (P : Orchestrator → Prop)
    (hstep : ∀ u, P u → ¬ Stops around u ∧ Vetoes around u ∧ P (u.answered around).extended)
    (ho : P o) (fuel : Nat) (vetoes : UInt32) : takeControl around fuel vetoes o = none := by
  induction fuel generalizing o vetoes with
  | zero => rfl
  | succ fuel ih =>
    obtain ⟨hstops, hvetoes, hnext⟩ := hstep o ho
    rw [takeControl_succ, round_eq_inr_iff.2 ⟨hstops, hvetoes, rfl⟩]
    exact ih hnext (vetoes + 1)

/-- A hook that vetoes every sleep. -/
def vetoing : Surroundings where
  hook := some fun o => (true, o)

theorem vetoing_keepsWindow : vetoing.KeepsWindow := by
  rintro f ⟨⟩
  exact ⟨fun _ => rfl, fun _ => rfl, fun _ => rfl⟩

/-- If the timebox does not close, a hook that vetoes every sleep keeps the node awake. -/
theorem takeControl_vetoing (hstopped : o.stopped = false) (hcloses : ¬ o.Closes) (fuel : Nat)
    (vetoes : UInt32) : takeControl vetoing fuel vetoes o = none := by
  refine takeControl_of_forever (fun u => u.stopped = false ∧ ¬ u.Closes) ?_ ⟨hstopped, hcloses⟩ fuel
    vetoes
  rintro u ⟨hrunning, hopen⟩
  have hdue := toNat_due u
  have hlt := u.due.toNat_lt
  have hgrants : (u.answered vetoing).Grants := by
    rw [grants_iff]
    -- at the end of the wait nothing of the window lies ahead
    show u.due.toNat - u.window.start.toNat + (u.window.deadline.toNat - u.due.toNat) +
      u.timings.vetoSlice < u.limit
    rw [Closes, latest] at hopen
    split at hopen
    · omega
    · rw [Micros.toNat_top] at hopen
      omega
  refine ⟨not_stops hrunning rfl, ⟨rfl, hgrants⟩, hrunning, fun h => hopen ?_⟩
  have hended := due_extended (u.answered vetoing)
  have hwaited := toNat_due (u.answered vetoing)
  rw [show (u.answered vetoing).timings = u.timings from rfl, Micros.toNat_top] at hended
  rw [show (u.answered vetoing).window = u.window from rfl,
    show (u.answered vetoing).clock = u.due from rfl] at hwaited
  rw [Closes, latest, show (u.answered vetoing).extended.limit = u.limit from rfl,
    show (u.answered vetoing).extended.window.start = u.window.start from rfl,
    show (u.answered vetoing).extended.timings = u.timings from rfl] at h
  rw [Closes, latest]
  split at h
  · next hslice => rw [if_pos hslice]; omega
  · next hslice => rw [if_neg hslice]; exact h

/-- A hook that begins the window anew before it vetoes the sleep. -/
def restarting : Surroundings where
  hook := some fun o => (true, o.startWindow)

/-- It keeps any node awake whose slice is shorter than its windows, if the timebox ends in time. -/
theorem takeControl_restarting (hstopped : o.stopped = false)
    (hslice : o.timings.vetoSlice < o.timings.awake)
    (hroom : 2 * o.timings.awake < 0x10000000000000000) (fuel : Nat) (vetoes : UInt32) :
    takeControl restarting fuel vetoes o = none := by
  refine takeControl_of_forever (fun u => u.stopped = false ∧ u.timings = o.timings) ?_ ⟨hstopped, rfl⟩
    fuel vetoes
  rintro u ⟨hrunning, htimings⟩
  have hgrants : (u.answered restarting).Grants := by
    have hdeadline := Micros.toNat_plus u.due (.ofNat u.timings.awake)
    rw [Micros.toNat_ofNat, htimings] at hdeadline
    rw [grants_iff]
    show u.due.toNat - u.due.toNat + ((u.due.plus (.ofNat u.timings.awake)).toNat - u.due.toNat) +
      u.timings.vetoSlice < min (2 * u.timings.awake) Micros.top.toNat
    rw [htimings, Micros.toNat_top]
    omega
  exact ⟨not_stops hrunning rfl, ⟨rfl, hgrants⟩, hrunning, htimings⟩

theorem takeControl_of_stopped (hstopped : o.stopped = true) (around : Surroundings) :
    o.takeControl around 1 0 = some (⟨o.awakeSoFar, 0, 0, false⟩, o.stop) := by
  rw [takeControl_succ, round_of_stops 0 (.inl hstopped)]

/-- The first window of accepted timings closes unless a slice is nothing. -/
theorem closes_make_iff {s : Settings} (hs : s.check = .ok ()) {now : Micros}
    (hnow : now.toNat + 2 * s.timings.awake < 0x10000000000000000) :
    (make s.timings now).Closes ↔ s.orchestration.vetoSliceMs ≠ 0 := by
  have hawake : s.orchestration.awakeMs ≠ 0 := Settings.awakeMs_ne_zero hs
  have hlimit : (make s.timings now).limit = 2 * s.timings.awake := by
    rw [limit, Micros.toNat_top]
    show min (2 * s.timings.awake) _ = _
    omega
  have hdue : (make s.timings now).due.toNat = now.toNat + s.timings.awake := by
    rw [toNat_due]
    show max (now.plus (.ofNat s.timings.awake)).toNat now.toNat = _
    rw [Micros.toNat_plus, Micros.toNat_ofNat]
    omega
  have hslice : (make s.timings now).timings.vetoSlice = s.orchestration.vetoSliceMs * 1000 := rfl
  have hlength : s.timings.awake = s.orchestration.awakeMs * 1000 := rfl
  rw [Closes, hlimit, latest, hslice, show (make s.timings now).window.start = now from rfl]
  split
  · rw [hdue]
    omega
  · rw [Micros.toNat_top]
    omega

/-- Running a window out ends whatever the hook does, exactly if the node has been stopped before: a hook
may begin the window anew. If it keeps to the window, the run ends whatever the hook answers, exactly if
the node has been stopped before or the timebox closes. The hook is then called at most once for every
slice that is left of the timebox, and once more. In the first window of a node with accepted settings
the timebox closes unless a slice is nothing. -/
theorem takeControl_ends_iff {s : Settings} (hs : s.check = .ok ()) (ho : o.timings = s.timings) :
    (2 * s.timings.awake < 0x10000000000000000 →
      ((∀ around : Surroundings, ∃ fuel report o',
        o.takeControl around fuel 0 = some (report, o')) ↔ o.stopped = true)) ∧
    ((∀ around : Surroundings, around.KeepsWindow → ∃ fuel report o',
        o.takeControl around fuel 0 = some (report, o')) ↔ o.stopped = true ∨ o.Closes) ∧
    (o.Closes → ∀ around : Surroundings, around.KeepsWindow → ∃ report o',
      o.takeControl around (o.left / s.timings.vetoSlice + 1) 0 = some (report, o') ∧
        o'.hookCalls ≤ o.hookCalls + (o.left / s.timings.vetoSlice + 1)) ∧
    ∀ now : Micros, now.toNat + 2 * s.timings.awake < 0x10000000000000000 →
      ((make s.timings now).Closes ↔ s.orchestration.vetoSliceMs ≠ 0) := by
  refine ⟨fun hroom => ⟨fun h => ?_, fun hstopped around => ?_⟩, ⟨fun h => ?_, ?_⟩,
    fun hcloses around hkeeps => ?_, fun now hnow => closes_make_iff hs hnow⟩
  · obtain ⟨fuel, report, o', hrun⟩ := h restarting
    rw [← Bool.not_eq_false]
    intro hstopped
    have hslice : o.timings.vetoSlice < o.timings.awake := by
      rw [ho]
      exact Settings.vetoSlice_lt_awake hs
    cases (takeControl_restarting hstopped hslice (by rwa [ho]) fuel 0).symm.trans hrun
  · exact ⟨1, _, _, takeControl_of_stopped hstopped around⟩
  · obtain ⟨fuel, report, o', hrun⟩ := h vetoing vetoing_keepsWindow
    cases hstopped : o.stopped with
    | true => exact .inl rfl
    | false =>
      refine .inr (Classical.byContradiction fun hcloses => ?_)
      cases (takeControl_vetoing hstopped hcloses fuel 0).symm.trans hrun
  · rintro (hstopped | hcloses) around hkeeps
    · exact ⟨1, _, _, takeControl_of_stopped hstopped around⟩
    · obtain ⟨report, o', hrun, -⟩ := takeControl_of_closes hcloses hkeeps
      exact ⟨_, report, o', hrun⟩
  · rw [← ho]
    exact takeControl_of_closes hcloses hkeeps

/-- Settings whose vetoes ask for nothing. -/
def restless : Settings where
  orchestration := { awakeMs := 10, sleepMs := 20, vetoSliceMs := 0 }

/-- They are accepted, and a hook that keeps to the window can keep a new node awake for ever. -/
theorem restless_awake :
    restless.check = .ok () ∧ (make restless.timings 0).stopped = false ∧
      ¬ ∀ around : Surroundings, around.KeepsWindow → ∃ fuel report o',
        (make restless.timings 0).takeControl around fuel 0 = some (report, o') := by
  have hs : restless.check = .ok () := by rfl
  refine ⟨hs, rfl, fun h => ?_⟩
  obtain ⟨-, hends, -, hfirst⟩ := takeControl_ends_iff (o := make restless.timings 0) hs rfl
  obtain hstopped | hcloses := hends.1 h
  · cases hstopped
  · exact (hfirst 0 (by decide)).1 hcloses rfl

end Orchestrator

end Multilink
