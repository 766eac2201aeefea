import Multilink.Proofs.FailedWork
/-!
# What a shutdown stops

A shutdown refuses every call of a producer that begins after it. A call that has looked for a shutdown
before may still be accepted. The scheduler looks for it only at the start of a round, and finishes the
round that it is in: when it is between that look and taking an item out, one more item may come out
(`Scheduler.taken_after_shutDown`), and no more than one.
-/

namespace Multilink

/-- Has the scheduler begun a round, and not taken an item out in it? -/
def Phase.late {α : Type} : Phase α → Bool
  | .polling | .blockTest | .slotWait | .taking => true
  | _ => false

namespace Scheduler

open scoped List

variable {α : Type} {s t : Scheduler α} {es : List (Event α)} {settings : QueueSettings}

/-- A round that has not begun does not begin any more. -/
theorem Change.early_of_closed (h : Change s es t) (hc : s.queue.closed = true)
    (he : s.phase.late = false) : t.phase.late = false ∧ es.filterMap Event.taken? = [] := by
  cases h with
  | turned turn =>
    cases turn with
    | enters _ opened => cases opened.symm.trans hc
    | passes place | slotFound place => simp [place, Phase.late] at he
    | _ => exact ⟨rfl, rfl⟩
  | polled place | taken place => simp [place, Phase.late] at he
  | began | spawned | abandoned | forgone | ended | failed | cleared => exact ⟨rfl, rfl⟩
  | dropped => exact ⟨rfl, filterMap_dropped_none (fun _ => rfl) _⟩
  | _ => exact ⟨he, rfl⟩

theorem taken_of_early (hc : s.queue.closed = true) (he : s.phase.late = false)
    (moves : List (Move α)) : (s.run moves).2.filterMap Event.taken? = [] := by
  induction moves generalizing s with
  | nil => rfl
  | cons m rest ih =>
    obtain ⟨he', hnone⟩ := (change_step m s).early_of_closed hc he
    simp [run, hnone, ih ((change_step m s).pending hc).1 he']

/-- In a round that has begun, the scheduler takes the first item out, gives up, or is still there,
with what was put in behind the items. -/
theorem Change.late_of_closed (h : Change s es t) (hl : s.phase.late = true) :
    (∃ a rest, s.queue.items = a :: rest ∧ es.filterMap Event.taken? = [a] ∧
      t.phase.late = false) ∨
    (es.filterMap Event.taken? = [] ∧
      t.queue.items = s.queue.items ++ es.filterMap Event.accepted?) := by
  cases h with
  | taken place first => exact .inl ⟨_, _, first, rfl, rfl⟩
  | dropped place => simp [place, Phase.late] at hl
  | accepted => exact .inr ⟨rfl, rfl⟩
  | _ => exact .inr ⟨rfl, (List.append_nil _).symm⟩

theorem taken_of_closed (hc : s.queue.closed = true) (moves : List (Move α)) :
    (s.run moves).2.filterMap Event.taken? = [] ∨
      (s.phase.late = true ∧ (s.run moves).2.filterMap Event.taken? =
        (s.queue.items ++ (s.run moves).2.filterMap Event.accepted?).take 1) := by
  induction moves generalizing s with
  | nil => exact .inl rfl
  | cons m rest ih =>
    have hc' := ((change_step m s).pending hc).1
    by_cases hl : s.phase.late = true
    -- with the first item out, the round is over, and no other begins
    · rcases (change_step m s).late_of_closed hl with ⟨a, items, hfirst, htaken, he⟩ | ⟨hnone, hitems⟩
      · refine .inr ⟨hl, ?_⟩
        simp [run, htaken, hfirst, taken_of_early hc' he]
      · rcases ih hc' with hrest | ⟨-, hrest⟩
        · exact .inl (by simp [run, hnone, hrest])
        · exact .inr ⟨hl, by simp [run, hnone, hrest, hitems]⟩
    · exact .inl (taken_of_early hc (by simpa using hl) _)

theorem Waits.comes_late {a : α} {c : Bool} (hw : Waits settings a c s) (hl : s.phase.late = true) :
    Comes a s := by
  cases hp : s.phase with
  | polling => exact hw.comes_polling hp
  | blockTest => exact hw.comes_blockTest hp
  | slotWait => exact hw.comes_slotWait hp
  | taking => exact hw.comes_taking hp
  | _ => simp [hp, Phase.late] at hl

/-- A round that has begun can be gone on with until it takes the first item out, for somebody may free
the queue. -/
theorem taken_of_late (hi : Inv settings s) (hl : s.phase.late = true) (hitems : s.queue.items ≠ []) :
    ∃ later, (s.run later).2.filterMap Event.taken? ≠ [] := by
  obtain ⟨a, rest, hfirst⟩ := List.exists_cons_of_ne_nil hitems
  have hw : Waits settings a s.queue.closed { s with queue := s.queue.setBlocked false } :=
    ⟨hi.effect (effect_step (.setBlocked false) s), rfl, rfl, rest, hfirst⟩
  obtain ⟨own, -, htaken⟩ := hw.comes_late hl
  refine ⟨.setBlocked false :: own, ?_⟩
  simp [run, step, htaken]

/-- After a shutdown a call that begins is refused, only producers that have looked before can put
items in, and at most one item is still taken out. Just when the scheduler has begun a round, and there
is such an item or such a producer, one may be. -/
theorem taken_after_shutDown {moves : List (Move α)}
    (h : run { queue := { settings } } moves = (s, es)) (hc : s.queue.closed = true) :
    (∀ a, (s.step (.enqueue a)).2 = [.refused a .shutDown]) ∧
      (∀ later, (s.run later).2.filterMap Event.accepted? <+~ s.producers ∧
        ((s.run later).2.filterMap Event.taken? = [] ∨
          (s.phase.late = true ∧ (s.run later).2.filterMap Event.taken? =
            (s.queue.items ++ (s.run later).2.filterMap Event.accepted?).take 1))) ∧
      ((∃ later, (s.run later).2.filterMap Event.taken? ≠ []) ↔
        s.phase.late = true ∧ (s.queue.items ≠ [] ∨ s.producers ≠ [])) := by
  obtain ⟨-, hinv, -⟩ := reached h
  have hpending (later : List (Move α)) : (s.run later).2.filterMap Event.accepted? <+~ s.producers :=
    (List.sublist_append_left ..).subperm.trans (pending_run hc later).2
  refine ⟨fun a => by simp [step, enqueue, hc], fun later => ⟨hpending later, taken_of_closed hc later⟩,
    ?_, ?_⟩
  · rintro ⟨later, htaken⟩
    rcases taken_of_closed hc later with hnone | ⟨hl, hfirst⟩
    · exact absurd hnone htaken
    · refine ⟨hl, ?_⟩
      by_contra! hempty
      have hnone := hpending later
      rw [hempty.2, List.subperm_nil] at hnone
      rw [hempty.1, hnone] at hfirst
      exact htaken hfirst
  · rintro ⟨hl, hsome⟩
    by_cases hitems : s.queue.items = []
    · obtain ⟨a, rest, hproducers⟩ := List.exists_cons_of_ne_nil (hsome.resolve_left (absurd hitems))
      have hroom : s.queue.full = false := by
        simp [WorkQueue.full, hitems]
        omega
      have hstep : s.step (.push 0) =
          ({ s with queue := { s.queue with items := [a] }, producers := rest }, [.accepted a]) := by
        simp [step, push, WorkQueue.push, hproducers, hroom, hitems]
      have hinv' := hinv.effect (effect_step (.push 0) s)
      rw [hstep] at hinv'
      obtain ⟨later, htaken⟩ := taken_of_late hinv' hl (List.cons_ne_nil a [])
      refine ⟨.push 0 :: later, ?_⟩
      simp only [run, hstep, List.filterMap_append]
      exact fun h => htaken (List.append_eq_nil_iff.1 h).2
    · exact taken_of_late hinv hl hitems

/-- The poll callback shuts the queue down, and the round goes on to the item. -/
theorem taken_though_shutDown :
    let r := run { queue := { settings := {} } } [.start, .enqueue 1, .push 0, .advance, .shutDown]
    r.1.queue.closed = true ∧ r.1.phase = .polling ∧
      (∃ later, (r.1.run later).2.filterMap Event.taken? ≠ []) ∧
      (r.1.run [.advance, .advance, .advance, .advance]).2.filterMap Event.taken? = [1] := by
  intro r
  have hmay := (taken_after_shutDown (Prod.eta r).symm (by decide)).2.2
  exact ⟨by decide, by decide, hmay.2 (by decide), by decide⟩

end Scheduler

end Multilink
