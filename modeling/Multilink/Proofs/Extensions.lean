import Multilink.Proofs.Vetoes
/-!
# Requests for more time

A request is granted exactly if the deadline that it would produce, its extra time after the later
of the deadline and now, lies before the end of the timebox. The test that is made adds up the time
since the window began, the time ahead and the extra time, each cut off at zero or at the largest
time; that it comes to the same is `Orchestrator.granted_iff`.

`Orchestrator.asking` makes requests in a row, each at a time of its own, and `Orchestrator.Extends`
is what holds between the window before and after them, however many there are.
-/

namespace Multilink.Orchestrator

/-- A request for more time, and the time at which it is made. -/
structure Request where
  time : Micros
  extra : Nat
  deriving DecidableEq, Repr

/-- The clock shows the time of the request. -/
def atTime (r : Request) (o : Orchestrator) : Orchestrator :=
  { o with clock := r.time }

/-- The state after these requests, first one first. -/
def asking (rs : List Request) (o : Orchestrator) : Orchestrator :=
  rs.foldl (fun o r => ((o.atTime r).askForTime r.extra).2) o

variable {o u v : Orchestrator} {rs : List Request} {r : Request}

/-! ## One request -/

theorem granted_iff (hstart : o.window.start ≤ o.clock) (extra : Nat) :
    (o.askForTime extra).1 = true ↔
      o.due.toNat - o.window.start.toNat + extra < o.limit := by
  have hdue := toNat_due o
  have hlt := o.due.toNat_lt
  rw [UInt64.le_iff_toNat_le] at hstart
  have htest : (o.askForTime extra).1 = true ↔
      o.totalWith (.ofNat extra) < (Micros.ofNat o.timings.awake).twice := by
    unfold askForTime
    dsimp only
    split
    · next h => exact iff_of_true rfl h
    · next h => exact iff_of_false nofun h
  -- up to the deadline the two differences add up to it, and after it the second one is zero
  have htotal : (o.totalWith (.ofNat extra)).toNat =
      min (o.due.toNat - o.window.start.toNat + min extra Micros.top.toNat) Micros.top.toNat := by
    rw [totalWith, Micros.toNat_plus, Micros.toNat_plus, Micros.toNat_minus, Micros.toNat_minus,
      Micros.toNat_ofNat, Micros.toNat_top]
    omega
  have hlimit : (Micros.ofNat o.timings.awake).twice.toNat = o.limit := by
    rw [Micros.toNat_twice, Micros.toNat_ofNat, limit, Micros.toNat_top]
    omega
  rw [htest, UInt64.lt_iff_toNat_lt, htotal, hlimit, limit, Micros.toNat_top]
  omega

/-- A request that is denied changes nothing, and one that is granted sets a deadline. -/
theorem askForTime_eq (o : Orchestrator) (extra : Nat) :
    o.askForTime extra = (false, o) ∨
      o.askForTime extra =
        (true, { o with window := { o.window with deadline := o.due.plus (.ofNat extra) } }) := by
  unfold askForTime
  dsimp only
  split
  · exact .inr rfl
  · exact .inl rfl

/-- What a request comes to whose sums are times. -/
structure Decided (o : Orchestrator) (extra : Nat) : Prop where
  granted_iff : (o.askForTime extra).1 = true ↔
    o.due.toNat + extra < o.window.start.toNat + 2 * o.timings.awake
  granted : (o.askForTime extra).1 = true → ∃ deadline : Micros,
    deadline.toNat = o.due.toNat + extra ∧
      (o.askForTime extra).2 = { o with window := { o.window with deadline } }
  denied : (o.askForTime extra).1 = false → (o.askForTime extra).2 = o

theorem decided (hstart : o.window.start ≤ o.clock) {extra : Nat}
    (hlength : 2 * o.timings.awake < 0x10000000000000000)
    (hsum : o.due.toNat + extra < 0x10000000000000000) : o.Decided extra := by
  have hordered : o.window.start.toNat ≤ o.due.toNat := by
    rw [UInt64.le_iff_toNat_le] at hstart
    rw [toNat_due]
    omega
  refine ⟨?_, fun hgranted => ?_, fun hdenied => ?_⟩
  · rw [Orchestrator.granted_iff hstart, limit, Micros.toNat_top]
    omega
  · obtain h | h := askForTime_eq o extra
    · rw [h] at hgranted
      cases hgranted
    · refine ⟨o.due.plus (.ofNat extra), ?_, congrArg Prod.snd h⟩
      rw [Micros.toNat_plus, Micros.toNat_ofNat]
      omega
  · obtain h | h := askForTime_eq o extra
    · rw [h]
    · rw [h] at hdenied
      cases hdenied

/-! ## Requests in a row -/

/-- The window has only been extended, if at all within its timebox. -/
structure Extends (o u : Orchestrator) : Prop where
  timings : u.timings = o.timings
  start : u.window.start = o.window.start
  later : o.window.deadline.toNat ≤ u.window.deadline.toNat
  bounded : u.window.deadline = o.window.deadline ∨
    u.window.deadline.toNat < o.window.start.toNat + 2 * o.timings.awake

namespace Extends

theorem refl (o : Orchestrator) : o.Extends o :=
  ⟨rfl, rfl, Nat.le_refl _, .inl rfl⟩

theorem trans (h : o.Extends u) (h' : u.Extends v) : o.Extends v := by
  refine ⟨h'.timings.trans h.timings, h'.start.trans h.start, Nat.le_trans h.later h'.later, ?_⟩
  obtain hsame | hlt := h'.bounded
  · rw [hsame]
    exact h.bounded
  · rw [h.start, h.timings] at hlt
    exact .inr hlt

theorem askForTime (o : Orchestrator) (r : Request) :
    o.Extends ((o.atTime r).askForTime r.extra).2 := by
  unfold Orchestrator.askForTime
  dsimp only
  split
  · next hlt =>
    have hmax := Micros.toNat_max o.window.deadline r.time
    rw [UInt64.lt_iff_toNat_lt, totalWith, Micros.toNat_plus, Micros.toNat_plus,
      Micros.toNat_minus, Micros.toNat_minus, Micros.toNat_twice, Micros.toNat_ofNat,
      Micros.toNat_ofNat] at hlt
    have hdeadline := o.window.deadline.toNat_lt
    dsimp only [atTime] at hlt
    refine ⟨rfl, rfl, ?_, .inr ?_⟩
    · show _ ≤ (Micros.plus (max o.window.deadline r.time) (.ofNat r.extra)).toNat
      rw [Micros.toNat_plus, hmax]
      omega
    · show (Micros.plus (max o.window.deadline r.time) (.ofNat r.extra)).toNat < _
      rw [Micros.toNat_plus, hmax, Micros.toNat_ofNat]
      omega
  · exact ⟨rfl, rfl, Nat.le_refl _, .inl rfl⟩

theorem asking (rs : List Request) (o : Orchestrator) : o.Extends (o.asking rs) := by
  induction rs generalizing o with
  | nil => exact .refl o
  | cons r rs ih => exact (askForTime o r).trans (ih _)

end Extends

theorem asking_append (earlier later : List Request) (o : Orchestrator) :
    o.asking (earlier ++ later) = (o.asking earlier).asking later :=
  List.foldl_append

/-- Within one window, a request that is not made before the window began is granted exactly if the
deadline that it would produce lies before the end of the timebox, and then sets this deadline; else
it changes nothing. The deadline never moves back, and whatever is asked for leaves it in the
timebox, so that a window of the nominal length is extended by less than this length. -/
theorem asking_exact (hawake : 0 < o.timings.awake)
    (hlength : 2 * o.timings.awake < 0x10000000000000000) (rs : List Request) :
    (∀ earlier r later, rs = earlier ++ r :: later → o.window.start ≤ r.time →
      let before := (o.asking earlier).atTime r
      let due := max (o.asking earlier).window.deadline.toNat r.time.toNat
      due + r.extra < 0x10000000000000000 →
      ((before.askForTime r.extra).1 = true ↔
        due + r.extra < o.window.start.toNat + 2 * o.timings.awake) ∧
      ((before.askForTime r.extra).1 = true → ∃ deadline : Micros,
        deadline.toNat = due + r.extra ∧ o.asking (earlier ++ [r]) =
          { before with window := { before.window with deadline } }) ∧
      ((before.askForTime r.extra).1 = false → o.asking (earlier ++ [r]) = before)) ∧
    (∀ earlier later, rs = earlier ++ later →
      (o.asking earlier).window.deadline ≤ (o.asking rs).window.deadline) ∧
    ((o.asking rs).window.deadline = o.window.deadline ∨
      (o.asking rs).window.deadline.toNat < o.window.start.toNat + 2 * o.timings.awake) ∧
    (o.window.deadline = o.window.start.plus (.ofNat o.timings.awake) →
      (o.asking rs).window.deadline.toNat - o.window.deadline.toNat < o.timings.awake) := by
  have hextends := Extends.asking rs o
  refine ⟨?_, ?_, hextends.bounded, ?_⟩
  · rintro earlier r later rfl hstart before due hsum
    have hearlier := Extends.asking earlier o
    have hdue : before.due.toNat = due := toNat_due before
    have hdecided : before.Decided r.extra := by
      refine decided ?_ ?_ (hdue ▸ hsum)
      · rwa [← hearlier.start] at hstart
      · rwa [← hearlier.timings] at hlength
    have hnext : o.asking (earlier ++ [r]) = (before.askForTime r.extra).2 := asking_append ..
    have hgranted := hdecided.granted_iff
    rw [show before.window.start = o.window.start from hearlier.start,
      show before.timings = o.timings from hearlier.timings, hdue] at hgranted
    rw [hnext, ← hdue]
    exact ⟨hdue ▸ hgranted, hdecided.granted, hdecided.denied⟩
  · rintro earlier later rfl
    rw [UInt64.le_iff_toNat_le, asking_append]
    exact (Extends.asking later _).later
  · intro hnominal
    have hdeadline : o.window.deadline.toNat = _ := hnominal ▸ Micros.toNat_plus _ _
    have hlast := (o.asking rs).window.deadline.toNat_lt
    rw [Micros.toNat_ofNat] at hdeadline
    obtain hsame | hlt := hextends.bounded
    · rw [hsame]
      omega
    · omega

/-- Of two requests at one time, the one that would fill the timebox is denied. -/
theorem asking_exact_at_limit :
    let o := make { awake := 1000, sleep := 5000 } 0
    let rs : List Request := [⟨200, 400⟩, ⟨1500, 500⟩, ⟨1500, 499⟩]
    (o.asking (rs.take 1)).window.deadline = 1400 ∧
      (((o.asking (rs.take 1)).atTime ⟨1500, 500⟩).askForTime 500).1 = false ∧
      (((o.asking (rs.take 2)).atTime ⟨1500, 499⟩).askForTime 499).1 = true ∧
      (o.asking rs).window.deadline.toNat < 2000 := by
  intro o rs
  obtain ⟨heach, -, hbounded, -⟩ := asking_exact (o := o) (by decide) (by decide) rs
  have hfull := (heach (rs.take 1) ⟨1500, 500⟩ (rs.drop 2) rfl (by decide) (by decide)).1
  have hlast := (heach (rs.take 2) ⟨1500, 499⟩ [] rfl (by decide) (by decide)).1
  refine ⟨by decide, ?_, hlast.2 (by decide), hbounded.resolve_left (by decide)⟩
  rw [← Bool.not_eq_true, hfull]
  decide

end Multilink.Orchestrator
