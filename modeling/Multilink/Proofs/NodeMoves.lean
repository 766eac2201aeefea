import Multilink.Proofs.Links
/-!
# The moves of a node, seen from one of its links

`NodeSite.Acts` lists what a node does and what is done on its bus: it is started and shut down, its
schedulers move, its application calls the dispatcher, and others use their endpoints.
`NodeSite.Acts.exists_run` says that each of these is a run as seen from any link of the node, so that
what is proved of all runs holds of whatever nodes do.
-/

namespace Multilink

/-- The wiring is that of a station. -/
def Layout.Wired (l : Layout) : Prop :=
  ∃ plan attached, l.wiring = Station.wire plan attached

/-- The endpoint belongs to this link of the node, and to no other. -/
structure Layout.Own (l : Layout) (k : Nat) (r : EndpointId) : Prop where
  wired : l.Wired
  here : l.endpoints[k]? = some [r]
  apart : ∀ {j : Nat} {es : List EndpointId}, l.endpoints[j]? = some es → r ∈ es → j = k

namespace NodeSite

/-- What a node does, and what others do on its bus. They do not poll the endpoints of the node. -/
inductive Acts (s : NodeSite) : NodeSite → Prop
  | start : Acts s { s with node := s.node.start.2 }
  | shutDown : Acts s { s with node := s.node.shutDown }
  | intake (j : Nat) : Acts s (s.intakeStep j)
  | application : Acts s s.applicationStep
  | call (c : Dispatcher.Call) : Acts s (s.onStation (Site.dispatch fun w => c.act w))
  | bus {c : Bus.Call} {eff : Bus.Effect} {b : Bus} (step : Bus.Step s.bus c eff b)
      (others : ∀ i ∈ s.layout.endpoints.flatten, c ≠ .poll i) : Acts s { s with bus := b }

variable {s t u : NodeSite} {k j : Nat} {r : EndpointId} {x y : Intake}

/-! ## Next to the link -/

/-- Frames may come to the endpoint, and the work queue of its link is left alone. -/
structure Aside (k : Nat) (r : EndpointId) (s t : NodeSite) : Prop where
  feeds : ∃ log, Bus.Feeds r s.bus log t.bus
  same : t.node.intakes[k]? = s.node.intakes[k]?
  fixed : t.layout = s.layout

theorem Aside.refl (k : Nat) (r : EndpointId) (s : NodeSite) : Aside k r s s :=
  ⟨⟨[], .quiet rfl⟩, rfl, rfl⟩

theorem Aside.trans (h : Aside k r s t) (h' : Aside k r t u) : Aside k r s u := by
  obtain ⟨log, hfeeds⟩ := h.feeds
  obtain ⟨log', hfeeds'⟩ := h'.feeds
  exact ⟨⟨_, hfeeds.trans hfeeds'⟩, h'.same.trans h.same, h'.fixed.trans h.fixed⟩

/-- Whatever the dispatcher does by way of its drivers. -/
theorem aside_dispatch {α : Type} (wired : s.layout.Wired) (k : Nat) (r : EndpointId)
    {x : Wiring Ether → Act (Dispatcher Ether) α}
    (hx : ∀ {w R}, w.Within R → Dispatcher.Within R (x w)) :
    Aside k r s (s.onStation (Site.dispatch x)) := by
  obtain ⟨plan, attached, hwiring⟩ := wired
  refine ⟨?_, rfl, rfl⟩
  have hwithin := hx (Station.within_feeds plan attached r) s.dispatcher
  rw [← hwiring] at hwithin
  exact hwithin

theorem aside_serve (wired : s.layout.Wired) (k : Nat) (r : EndpointId) (m : Message) :
    Aside k r s (s.serve m) := by
  have hkeep : Aside k r s (s.onStation (Site.keep m)) := ⟨⟨[], .quiet rfl⟩, rfl, rfl⟩
  unfold serve
  simp only []
  split
  · exact hkeep
  · next payload _ =>
    have hwired : (s.onStation (Site.keep m)).layout.Wired := wired
    exact hkeep.trans (aside_dispatch hwired k r fun hw => Dispatcher.within_reply hw m payload)

theorem aside_moveApplication (k : Nat) (r : EndpointId) (m : Move Message) (s : NodeSite) :
    Aside k r s (s.moveApplication m) :=
  ⟨⟨[], .quiet rfl⟩, rfl, rfl⟩

theorem aside_applicationStep (wired : s.layout.Wired) (k : Nat) (r : EndpointId) :
    Aside k r s s.applicationStep := by
  unfold applicationStep
  split
  · split
    · exact (aside_serve wired k r _).trans (aside_moveApplication k r _ _)
    · exact aside_moveApplication k r _ s
  · exact (aside_serve wired k r _).trans (aside_moveApplication k r _ _)
  · exact aside_moveApplication k r _ s

/-! ## Other links -/

theorem pollInto_other {es : List EndpointId} (hr : r ∉ es) (x : Intake) (b : Bus) :
    (pollInto es x b).1.endpoints = x.endpoints ∧ (pollInto es x b).2.waiting r = b.waiting r := by
  induction es generalizing x b with
  | nil => exact ⟨rfl, rfl⟩
  | cons i es ih =>
    obtain ⟨hi, hes⟩ : r ≠ i ∧ r ∉ es := by simpa using hr
    obtain ⟨hendpoints, hwaiting⟩ := ih hes (enqueueAll (b.poll i).1 x) (b.poll i).2
    refine ⟨hendpoints, hwaiting.trans ?_⟩
    cases he : b.endpoint? i with
    | none => rw [Bus.poll, he]
    | some e => rw [Bus.waiting_poll he, if_neg hi]

theorem aside_setIntake (hj : j ≠ k) (here : s.node.intakes[j]? = some x)
    (hy : y.endpoints = x.endpoints) : Aside k r s (s.setIntake j y) where
  feeds := ⟨[], .quiet rfl⟩
  same := List.getElem?_set_ne hj
  fixed := layout_setIntake here hy

theorem aside_intakeStep (own : s.layout.Own k r) (hj : j ≠ k) : Aside k r s (s.intakeStep j) := by
  cases here : s.node.intakes[j]? with
  | none =>
    rw [intakeStep, here]
    exact .refl k r s
  | some x =>
    -- the other link has endpoints of its own, and polls no others
    have hr : r ∉ x.endpoints := fun hmem =>
      hj (own.apart (by rw [layout, List.getElem?_map, here]; rfl) hmem)
    cases hphase : x.scheduler.phase with
    | polling =>
      obtain ⟨hendpoints, hwaiting⟩ := pollInto_other hr x s.bus
      have hpoll : Aside k r s { s with bus := (pollInto x.endpoints x s.bus).2 } :=
        ⟨⟨[], .quiet hwaiting⟩, rfl, rfl⟩
      simp only [intakeStep, here, hphase]
      exact hpoll.trans
        (aside_setIntake (s := { s with bus := (pollInto x.endpoints x s.bus).2 }) hj here hendpoints)
    | working f =>
      rw [intakeStep_working here hphase]
      have hreceive := aside_dispatch (x := fun w => Dispatcher.receive w f) own.wired k r
        fun hw => Dispatcher.within_receive hw f
      exact hreceive.trans (aside_setIntake hj here rfl)
    | _ =>
      simp only [intakeStep, here, hphase]
      exact aside_setIntake hj here rfl

end NodeSite

namespace LinkSite

variable {s t : NodeSite} {k : Nat} {r : EndpointId} {x : Intake}

theorem exists_run_aside (h : s.Aside k r t) : ∃ log, Run k r ⟨s, []⟩ log ⟨t, []⟩ := by
  obtain ⟨log, hfeeds⟩ := h.feeds
  exact ⟨_, .one (.around hfeeds h.same h.fixed)⟩

/-! ## The link itself -/

theorem exists_run_moved {m : Move Inbound} (here : s.node.intakes[k]? = some x)
    (own : m.isOwn = true) : ∃ log, Run k r ⟨s, []⟩ log ⟨s.moveIntake k x m, []⟩ :=
  ⟨_, .one (.moved here own fun _ _ => rfl)⟩

theorem setIntake_setIntake (x y : Intake) (s : NodeSite) :
    (s.setIntake k x).setIntake k y = s.setIntake k y := by
  unfold NodeSite.setIntake
  simp only [List.set_set]

theorem setIntake_self (here : s.node.intakes[k]? = some x) : s.setIntake k x = s := by
  obtain ⟨hk, rfl⟩ := List.getElem?_eq_some_iff.1 here
  unfold NodeSite.setIntake
  rw [List.set_getElem_self]

/-- The frames of a poll are offered to the queue one by one. -/
theorem exists_run_offers (fs : List Inbound) (here : s.node.intakes[k]? = some x)
    (polling : x.scheduler.phase = .polling) :
    (NodeSite.enqueueAll fs x).scheduler.phase = .polling ∧
      ∃ log, Run k r ⟨s, fs⟩ log ⟨s.setIntake k (NodeSite.enqueueAll fs x), []⟩ := by
  induction fs generalizing s x with
  | nil =>
    refine ⟨polling, [], ?_⟩
    rw [show NodeSite.enqueueAll [] x = x from rfl, setIntake_self here]
    exact .nil
  | cons f fs ih =>
    let y : Intake := { x with scheduler := (x.scheduler.offer f).1 }
    have hoffer : x.scheduler.Offers f (x.scheduler.offer f) := .pushed [] nofun
    have hstep : Step k r ⟨s, f :: fs⟩ _ ⟨s.setIntake k y, fs⟩ := .offered here polling rfl hoffer
    obtain ⟨hphase, log, hrun⟩ := ih (s := s.setIntake k y) (x := y) (getElem?_setIntake here y)
      (hoffer.cases.1.trans polling)
    rw [setIntake_setIntake] at hrun
    exact ⟨hphase, _, (Logged.one hstep).trans hrun⟩

theorem exists_run_polling (here : s.node.intakes[k]? = some x)
    (polling : x.scheduler.phase = .polling) (alone : x.endpoints = [r]) :
    ∃ log, Run k r ⟨s, []⟩ log ⟨s.intakeStep k, []⟩ := by
  have hstep : s.intakeStep k = ({ s with bus := (s.bus.poll r).2 } : NodeSite).moveIntake k
      (NodeSite.enqueueAll (s.bus.poll r).1 x) .advance := by
    unfold NodeSite.intakeStep
    simp only [here, polling, alone]
    rfl
  rw [hstep]
  cases he : s.bus.endpoint? r with
  | none =>
    rw [Bus.poll, he]
    exact exists_run_moved here rfl
  | some e =>
    -- a poll, the offers of its frames, and the move of the scheduler that ends it
    have hpoll : Step k r ⟨s, []⟩ _ ⟨{ s with bus := (s.bus.poll r).2 }, (s.bus.poll r).1⟩ :=
      .polled here polling rfl he
    obtain ⟨hphase, log, hoffers⟩ := exists_run_offers (r := r) (s.bus.poll r).1
      (s := { s with bus := (s.bus.poll r).2 }) here polling
    obtain ⟨log', hmove⟩ := exists_run_moved (r := r) (m := .advance)
      (getElem?_setIntake (s := { s with bus := (s.bus.poll r).2 }) here
        (NodeSite.enqueueAll (s.bus.poll r).1 x)) rfl
    rw [NodeSite.moveIntake, setIntake_setIntake] at hmove
    exact ⟨_, ((Logged.one hpoll).trans hoffers).trans hmove⟩

theorem exists_run_working {f : Inbound} (wired : s.layout.Wired)
    (here : s.node.intakes[k]? = some x) (working : x.scheduler.phase = .working f) :
    ∃ log, Run k r ⟨s, []⟩ log ⟨s.intakeStep k, []⟩ := by
  obtain ⟨plan, attached, hwiring⟩ := wired
  have hinflow := (Dispatcher.inflow_receive s.node.station.wiring f s.dispatcher).inflow
  obtain ⟨log, hfeeds⟩ :=
    Dispatcher.within_receive (Station.within_feeds plan attached r) f s.dispatcher
  rw [← hwiring] at hfeeds
  exact ⟨_, .one (.of_receive (a := ⟨_, _⟩) here working rfl rfl (congrArg Inflow.items hinflow)
    hfeeds)⟩

theorem exists_run_intakeStep (own : s.layout.Own k r) (here : s.node.intakes[k]? = some x) :
    ∃ log, Run k r ⟨s, []⟩ log ⟨s.intakeStep k, []⟩ := by
  have halone : x.endpoints = [r] := by
    have hown := own.here
    rw [NodeSite.layout, List.getElem?_map, here] at hown
    exact Option.some.inj hown
  cases hphase : x.scheduler.phase with
  | polling => exact exists_run_polling here hphase halone
  | working f => exact exists_run_working own.wired here hphase
  | _ =>
    simp only [NodeSite.intakeStep, here, hphase]
    exact exists_run_moved here rfl

/-- A move of all schedulers of a node at once is one of the link, and then others next to it. -/
theorem exists_run_all {m : Move Inbound} {n : Node} (here : s.node.intakes[k]? = some x)
    (own : m.isOwn = true)
    (hintakes : n.intakes = s.node.intakes.map fun y =>
      { y with scheduler := (y.scheduler.step m).1 })
    (hwiring : n.station.wiring = s.node.station.wiring) :
    ∃ log, Run k r ⟨s, []⟩ log ⟨{ s with node := n }, []⟩ := by
  obtain ⟨log, hmove⟩ := exists_run_moved (r := r) here own
  have hrest : (s.moveIntake k x m).Aside k r { s with node := n } := by
    refine ⟨⟨[], .quiet rfl⟩, ?_, ?_⟩
    · rw [NodeSite.moveIntake, getElem?_setIntake here, hintakes, List.getElem?_map, here]
      rfl
    · rw [NodeSite.layout_moveIntake here, NodeSite.layout, NodeSite.layout, hwiring, hintakes,
        List.map_map]
      rfl
  obtain ⟨log', hrest⟩ := exists_run_aside hrest
  exact ⟨_, hmove.trans hrest⟩

end LinkSite

/-- Whatever a node does, and whatever others do on its bus. -/
theorem NodeSite.Acts.exists_run {s t : NodeSite} {k : Nat} {r : EndpointId} {x : Intake}
    (own : s.layout.Own k r) (here : s.node.intakes[k]? = some x) (h : s.Acts t) :
    ∃ log, LinkSite.Run k r ⟨s, []⟩ log ⟨t, []⟩ := by
  cases h with
  | start =>
    cases hrunning : s.node.running with
    | true =>
      rw [Node.start, if_pos hrunning]
      exact ⟨[], .nil⟩
    | false =>
      rw [Node.start, if_neg (by simp [hrunning])]
      exact LinkSite.exists_run_all (m := .start) here rfl rfl rfl
  | shutDown => exact LinkSite.exists_run_all (m := .shutDown) here rfl rfl rfl
  | intake j =>
    by_cases hj : j = k
    · subst hj
      exact LinkSite.exists_run_intakeStep own here
    · exact LinkSite.exists_run_aside (aside_intakeStep own hj)
  | application => exact LinkSite.exists_run_aside (aside_applicationStep own.wired k r)
  | call c =>
    exact LinkSite.exists_run_aside
      (aside_dispatch own.wired k r fun hw => Dispatcher.Call.within hw c)
  | bus step others =>
    have hr : r ∈ s.layout.endpoints.flatten :=
      List.mem_flatten.2 ⟨[r], List.mem_of_getElem? own.here, List.mem_singleton_self r⟩
    exact LinkSite.exists_run_aside ⟨step.exists_feeds (others r hr), rfl, rfl⟩

end Multilink
