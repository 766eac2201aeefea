import Multilink.Proofs.Construction
import Multilink.Proofs.NodeMoves
/-!
# Frames keep their order through a node

A new node gives each of its links an endpoint and a work queue of its own, so that every run of the
node is a run of the link. What `Pipe.Run.exists_tally` says of the frames then holds of the node
(`Node.link_in_order`), and the messages in the application queue are read from the frames in the order
in which these were sent.
-/

namespace Multilink

/-! ## New nodes -/

namespace Outlet

variable {address : Address} {b : Bus}

/-- New endpoints are named in a row after those that were there, and nothing waits at them. -/
structure Numbered (b : Bus) (es : List EndpointId) (c : Bus) : Prop where
  names : es = List.range' b.endpoints.length es.length
  size : c.endpoints.length = b.endpoints.length + es.length
  waiting r : c.waiting r = b.waiting r

theorem Numbered.nil (b : Bus) : Numbered b [] b :=
  ⟨rfl, rfl, fun _ => rfl⟩

theorem Numbered.append {c d : Bus} {es fs : List EndpointId} (h : Numbered b es c)
    (h' : Numbered c fs d) : Numbered b (es ++ fs) d where
  names := by
    rw [List.length_append, ← List.range'_append_1, ← h.names, ← h.size, ← h'.names]
  size := by rw [h'.size, h.size, List.length_append, Nat.add_assoc]
  waiting r := (h'.waiting r).trans (h.waiting r)

theorem numbered_attach (address : Address) (m : Media) (b : Bus) :
    Numbered b [(b.attach address m).1] (b.attach address m).2 where
  names := rfl
  size := List.length_append
  waiting r := (Bus.entry_attach address m b r).1

theorem numbered_attachAll (address : Address) (ms : List Media) (b : Bus) :
    (attachAll address ms b).1.length = ms.length ∧
      Numbered b (attachAll address ms b).1 (attachAll address ms b).2 := by
  induction ms generalizing b with
  | nil => exact ⟨rfl, .nil b⟩
  | cons m ms ih =>
    obtain ⟨hlength, hnumbered⟩ := ih (b.attach address m).2
    exact ⟨congrArg (· + 1) hlength, (numbered_attach address m b).append hnumbered⟩

theorem numbered_attachEach (address : Address) (os : List Outlet) (b : Bus) :
    (attachEach address os b).1.map (·.1) = os ∧
      (∀ x ∈ (attachEach address os b).1, x.2.length = x.1.media.length) ∧
      Numbered b ((attachEach address os b).1.flatMap (·.2)) (attachEach address os b).2 := by
  induction os generalizing b with
  | nil => exact ⟨rfl, nofun, .nil b⟩
  | cons o os ih =>
    obtain ⟨hlength, hnumbered⟩ := numbered_attachAll address o.media b
    obtain ⟨houtlets, hlengths, hrest⟩ := ih (attachAll address o.media b).2
    refine ⟨congrArg (o :: ·) houtlets, fun x hx => ?_, hnumbered.append hrest⟩
    obtain rfl | hx := List.mem_cons.1 hx
    · exact hlength
    · exact hlengths x hx

end Outlet

namespace Node

/-- The work queue of an outlet as it begins. -/
def freshIntake (settings : Settings) (o : Outlet) (es : List EndpointId) : Intake where
  endpoints := es
  scheduler := { queue := { settings := intakeSettings settings o } }

theorem eq_freshIntake {settings : Settings} {o : Outlet} {es : List EndpointId} {x : Intake}
    (h : buildIntake settings o es = .ok x) : x = freshIntake settings o es := by
  obtain ⟨q, hq, hx⟩ := Except.bind_eq_ok_iff.1 h
  cases hx
  unfold WorkQueue.build? at hq
  split at hq
  · cases hq
  · split at hq
    · cases hq
    · cases hq
      rfl

theorem buildIntakes_attached {settings : Settings} {attached : List (Outlet × List EndpointId)}
    {xs : List Intake}
    (h : buildIntakes settings (attached.map (·.1)) (attached.map (·.2)) = .ok xs) :
    xs = attached.map fun a => freshIntake settings a.1 a.2 := by
  induction attached generalizing xs with
  | nil =>
    cases h
    rfl
  | cons a attached ih =>
    obtain ⟨x, hx, h⟩ := Except.bind_eq_ok_iff.1 h
    obtain ⟨others, hothers, h⟩ := Except.bind_eq_ok_iff.1 h
    cases h
    rw [List.map_cons, ← eq_freshIntake hx, ← ih hothers]

/-- What a node is built of, with its endpoints attached to the bus. -/
theorem of_build {plan : NodePlan} {bus bus' : Bus} {node : Node}
    (h : build plan bus = .ok (node, bus')) :
    ∃ address attached, Outlet.attachEach address plan.outlets bus = (attached, bus') ∧
      node.station.wiring = Station.wire (stationPlan plan address) attached ∧
      node.intakes = attached.map fun a => freshIntake plan.settings a.1 a.2 := by
  obtain ⟨application, address, attached, intakes, hattached, hintakes, -, rfl⟩ := eq_of_build h
  -- the work queues are made for the outlets of the plan, which are those that were attached
  obtain ⟨houtlets, -, -⟩ := Outlet.numbered_attachEach address plan.outlets bus
  refine ⟨address, attached, hattached, rfl, buildIntakes_attached ?_⟩
  rw [hattached] at houtlets
  rw [houtlets]
  exact hintakes

theorem eq_of_mem_flatten {α : Type} {ls : List (List α)} (hn : ls.flatten.Nodup) {j k : Nat}
    {es fs : List α} {a : α} (hj : ls[j]? = some es) (hk : ls[k]? = some fs) (ha : a ∈ es)
    (ha' : a ∈ fs) : j = k := by
  have hapart := List.pairwise_iff_getElem.1 (List.nodup_flatten.1 hn).2
  obtain ⟨hjl, rfl⟩ := List.getElem?_eq_some_iff.1 hj
  obtain ⟨hkl, rfl⟩ := List.getElem?_eq_some_iff.1 hk
  by_contra hne
  rcases Nat.lt_or_gt_of_ne hne with hlt | hgt
  · exact hapart j k hjl hkl hlt ha ha'
  · exact hapart k j hkl hjl hgt ha' ha

/-- A link of a new node has an endpoint of its own, at which nothing waits, and a work queue that does
its work one by one, whatever the settings say. -/
theorem link_of_build {plan : NodePlan} {bus bus' : Bus} {node : Node} {k : Nat} {m : Media}
    (h : build plan bus = .ok (node, bus')) (link : plan.outlets[k]? = some (.link m)) :
    ∃ r, node.intakes[k]? = some (freshIntake plan.settings (.link m) [r]) ∧ bus'.waiting r = [] ∧
      ({ node, bus := bus' } : NodeSite).layout.Own k r := by
  obtain ⟨address, attached, hattached, hwiring, hintakes⟩ := of_build h
  obtain ⟨houtlets, hlengths, hnumbered⟩ := Outlet.numbered_attachEach address plan.outlets bus
  rw [hattached] at houtlets hlengths hnumbered
  rw [← houtlets, List.getElem?_map] at link
  obtain ⟨⟨o, es⟩, hk, rfl⟩ := Option.map_eq_some_iff.1 link
  obtain ⟨r, rfl⟩ := List.length_eq_one_iff.1 (hlengths _ (List.mem_of_getElem? hk))
  have hendpoints : (node.intakes.map (·.endpoints)) = attached.map (·.2) := by
    rw [hintakes, List.map_map]
    rfl
  have hnames := hnumbered.names
  have hown : (attached.map (·.2))[k]? = some [r] := by rw [List.getElem?_map, hk]; rfl
  refine ⟨r, ?_, ?_, ⟨⟨_, attached, hwiring⟩, ?_, fun hj hr => ?_⟩⟩
  · rw [hintakes, List.getElem?_map, hk]
    rfl
  · have hr : r ∈ attached.flatMap (·.2) :=
      List.mem_flatMap.2 ⟨_, List.mem_of_getElem? hk, List.mem_singleton_self r⟩
    rw [hnames, List.mem_range'_1] at hr
    rw [hnumbered.waiting, Bus.waiting, Bus.endpoint?, List.getElem?_eq_none hr.1]
    rfl
  · rw [NodeSite.layout, hendpoints]
    exact hown
  · rw [NodeSite.layout, hendpoints] at hj
    -- endpoints that are named in a row differ
    refine eq_of_mem_flatten ?_ hj hown hr (List.mem_singleton_self r)
    rw [← List.flatMap_def, hnames]
    exact List.nodup_range'

end Node

/-! ## Order -/

/-- The frames that came from an endpoint, in their order. -/
def sentBy (i : EndpointId) (log : List Happening) : List Inbound :=
  ((log.filterMap Happening.came?).filter (·.origin = i)).map (·.frame)

/-- The messages that the frames from an endpoint have put into the application queue. -/
def putFrom (i : EndpointId) (xs : List Passage) : List Message :=
  (xs.filter (·.origin = i)).flatMap (·.items)

/-- The message is what is read from the frame, with the medium it came on and a peer. -/
def Inbound.Reads (f : Inbound) (m : Message) : Prop :=
  ∃ m₀ peer, Frame.parse? f.bytes = .ok m₀ ∧ m = { m₀ with media := some f.media, peer := some peer }

/-- Why a frame has put nothing into the application queue. That this queue refused it is one of the
errors. -/
inductive Standing.Excuses (f : Inbound) : Standing → Prop
  | pending (b : Buffer) : Excuses f (.held b)
  | lost : Excuses f (.met .lost)
  | refused (e : QueueError) : Excuses f (.met (.refused e))
  | dropped : Excuses f (.met .dropped)
  | failed (e : Error) (items : List Message) : Excuses f (.met (.handled ⟨.error e, items⟩))
  | unqueued {a : Dispatcher.Arrival} {m : Message} (read : Frame.parse? f.bytes = .ok m)
      (kind : m.kind.filterable = false) : Excuses f (.met (.handled a))

/-- All frames that came, in their order, with where they stand. Each puts one message or none into the
application queue, and none only with an excuse; the messages from one endpoint are those of some of its
frames, in their order. -/
structure InOrder (log : List Happening) (p : Pipe) (xs : List Passage) : Prop
    extends Pipe.Tally log p xs where
  missing : ∀ x ∈ xs, x.items = [] ↔ x.standing.Excuses x.frame
  items : xs.flatMap (·.items) = log.flatMap (·.items)
  order i : ∃ fs, fs.Sublist (sentBy i log) ∧ List.Forall₂ Inbound.Reads fs (putFrom i xs)

section

variable {log : List Happening} {p : Pipe} {xs : List Passage}

theorem flatMap_items_passages (xs : List Passage) :
    xs.flatMap (·.items) = (xs.filterMap (Passage.met? .handled)).flatMap (·.2.items) := by
  induction xs with
  | nil => rfl
  | cons x xs ih =>
    obtain ⟨x, standing⟩ := x
    rw [List.flatMap_cons, ih]
    cases standing with
    | held b => rfl
    | met fate => cases fate <;> rfl

theorem flatMap_items_log (log : List Happening) :
    log.flatMap (·.items) = (log.filterMap (Happening.met? .handled)).flatMap (·.2.items) := by
  induction log with
  | nil => rfl
  | cons h log ih =>
    rw [List.flatMap_cons, ih]
    cases h with
    | came x => rfl
    | met f fate => cases fate <;> rfl

theorem exists_reads {xs : List Passage}
    (h : ∀ x ∈ xs, x.items = [] ∨ ∃ m, x.items = [m] ∧ x.frame.Reads m) :
    ∃ fs, fs.Sublist (xs.map (·.frame)) ∧ List.Forall₂ Inbound.Reads fs (xs.flatMap (·.items)) := by
  induction xs with
  | nil => exact ⟨[], .refl _, .nil⟩
  | cons x xs ih =>
    obtain ⟨fs, hsublist, hreads⟩ := ih fun y hy => h y (.tail x hy)
    rw [List.flatMap_cons, List.map_cons]
    rcases h x (.head xs) with hnone | ⟨m, hone, hread⟩
    · rw [hnone]
      exact ⟨fs, hsublist.cons _, hreads⟩
    · rw [hone]
      exact ⟨x.frame :: fs, hsublist.cons_cons _, .cons hread hreads⟩

/-- A frame whose handling went as the dispatcher handles frames. -/
def Passage.Sound (x : Passage) : Prop :=
  ∀ a, x.standing = .met (.handled a) → Dispatcher.Yields x.frame a

theorem Passage.Sound.items {x : Passage} (h : x.Sound) :
    (x.items = [] ∧ x.standing.Excuses x.frame) ∨
      ∃ m, x.items = [m] ∧ x.frame.Reads m ∧ ¬x.standing.Excuses x.frame := by
  obtain ⟨⟨i, f⟩, standing⟩ := x
  match standing, h with
  | .held b, _ => exact .inl ⟨rfl, .pending b⟩
  | .met .lost, _ => exact .inl ⟨rfl, .lost⟩
  | .met (.refused e), _ => exact .inl ⟨rfl, .refused e⟩
  | .met .dropped, _ => exact .inl ⟨rfl, .dropped⟩
  | .met (.handled a), h =>
    have hyields : Dispatcher.Yields f a := h a rfl
    cases hyields with
    | failed e => exact .inl ⟨rfl, .failed e []⟩
    | unqueued read kind => exact .inl ⟨rfl, .unqueued read kind⟩
    | queued peer read kind =>
      refine .inr ⟨_, rfl, ⟨_, peer, read, rfl⟩, ?_⟩
      rintro (_ | _ | _ | _ | _ | ⟨read', kind'⟩)
      obtain rfl := Except.ok.inj (read.symm.trans read')
      exact absurd (kind.symm.trans kind') nofun

theorem Pipe.Tally.sound (h : Tally log p xs)
    (hlog : ∀ f a, .met f (.handled a) ∈ log → Dispatcher.Yields f a) : ∀ x ∈ xs, x.Sound := by
  intro x hx a ha
  have hmem : (x.frame, Fate.handled a) ∈ xs.filterMap (Passage.met? .handled) :=
    List.mem_filterMap.2 ⟨x, hx, by rw [Passage.met?, ha]; rfl⟩
  rw [h.met, List.mem_filterMap] at hmem
  obtain ⟨y, hy, heq⟩ := hmem
  cases y with
  | came => cases heq
  | met f fate =>
    simp only [Happening.met?, Option.ite_none_right_eq_some, Option.some.injEq,
      Prod.mk.injEq] at heq
    obtain ⟨-, rfl, rfl⟩ := heq
    exact hlog x.frame a hy

theorem Pipe.Tally.inOrder (h : Tally log p xs)
    (hlog : ∀ f a, .met f (.handled a) ∈ log → Dispatcher.Yields f a) : InOrder log p xs := by
  have hsound := h.sound hlog
  refine ⟨h, fun x hx => ?_, ?_, fun i => ?_⟩
  · rcases (hsound x hx).items with ⟨hnone, hexcused⟩ | ⟨m, hone, -, hunexcused⟩
    · exact iff_of_true hnone hexcused
    · exact iff_of_false (by rw [hone]; nofun) hunexcused
  · rw [flatMap_items_passages, flatMap_items_log, h.met]
  · have hsent : sentBy i log = (xs.filter (·.origin = i)).map (·.frame) := by
      rw [sentBy, ← h.came, List.filter_map, List.map_map]
      rfl
    rw [hsent]
    refine exists_reads fun x hx => ?_
    rcases (hsound x (List.mem_of_mem_filter hx)).items with ⟨hnone, -⟩ | ⟨m, hone, hread, -⟩
    · exact .inl hnone
    · exact .inr ⟨m, hone, hread⟩

end

/-- Whatever a node is built with, and whatever happens from then on, the frames that came to one of its
links can be named in their order, each with where it is or what has become of it: the endpoint, the
poll, the work queue and its scheduler have those that are on their way, the log tells of those that
were lost, refused, dropped or handled, and each is counted once. Those without such an excuse have put
their messages into the application queue in this order. Whatever the node does is such a run. -/
theorem Node.link_in_order {plan : NodePlan} {bus bus' : Bus} {node : Node} {k : Nat} {m : Media}
    (built : build plan bus = .ok (node, bus')) (link : plan.outlets[k]? = some (.link m)) :
    ∃ r, node.intakes[k]?.map (·.endpoints) = some [r] ∧
      ∀ log s, LinkSite.Run k r ⟨⟨node, bus'⟩, []⟩ log s →
        (∃ x xs, s.site.node.intakes[k]? = some x ∧
          InOrder log (x.scheduler.pipe (s.site.bus.waiting r) s.polled) xs) ∧
        (s.polled = [] → ∀ t, s.site.Acts t →
          ∃ es, LinkSite.Run k r ⟨⟨node, bus'⟩, []⟩ (log ++ es) ⟨t, []⟩) := by
  obtain ⟨r, hintake, hwaiting, hown⟩ := link_of_build built link
  refine ⟨r, by rw [hintake]; rfl, fun log s hrun => ?_⟩
  have hstart : LinkSite.Reached (intakeSettings plan.settings (.link m)) k r
      (NodeSite.layout ⟨node, bus'⟩) [] ⟨⟨node, bus'⟩, []⟩ := by
    refine ⟨rfl, ⟨_, ⟨hintake, Scheduler.inv_new _, Scheduler.counted_new _⟩, ?_⟩,
      fun _ _ hmem => (List.not_mem_nil hmem).elim⟩
    rw [hwaiting]
    exact .nil
  have hreached := hrun.reached rfl hstart
  obtain ⟨x, hlinked, hflows⟩ := hreached.linked
  constructor
  · obtain ⟨xs, htally⟩ := hflows.exists_tally
    exact ⟨x, xs, hlinked.here, htally.inOrder hreached.yields⟩
  · intro hswept t hacts
    obtain ⟨site, polled⟩ := s
    cases hswept
    rw [← hreached.layout] at hown
    obtain ⟨es, hmove⟩ := hacts.exists_run hown hlinked.here
    exact ⟨es, hrun.trans hmove⟩

/-- The settings ask for tasks of their own. Of two frames that were sent the first is handled, and the
second is still in the queue of the link. -/
theorem Node.link_in_order_default :
    let far : Address := ⟨2, 0, 0, 0, 0, 2⟩
    let plan : NodePlan :=
      { settings := {}, outlets := [.link .busCan], application := some fun _ => none }
    let bus := (Bus.attach far .busCan {}).2
    let frame (id : UInt16) : Inbound :=
      { sender := .address far, media := .busCan, bytes := Frame.build .data id [0x78, 0x00] }
    let item := { Message.outbound .data 5 [0x78, 0x00] with media := some .busCan, peer := some ⟨1⟩ }
    let log : List Happening := [.came ⟨0, frame 5⟩, .came ⟨0, frame 6⟩,
      .met (frame 5) (.handled ⟨.ok (), [item]⟩)]
    plan.settings.queue.multitask = true ∧ plan.outlets[0]? = some (.link .busCan) ∧
    ∃ node bus' s x xs, build plan bus = .ok (node, bus') ∧
      LinkSite.Run 0 1 ⟨⟨node, bus'⟩, []⟩ log s ∧ s.site.node.intakes[0]? = some x ∧
      InOrder log (x.scheduler.pipe (s.site.bus.waiting 1) s.polled) xs ∧
      x.scheduler.queue.items = [frame 6] := by
  intro far plan bus frame item log
  let near : Address := ⟨2, 0, 0, 0, 0, 1⟩
  let q (items : List Inbound) (phase : Phase Inbound) (polls taken : Nat) : Scheduler Inbound :=
    { queue :=
        { settings := intakeSettings plan.settings (.link .busCan), items, polls, inFlight := taken }
      phase }
  let node (q : Scheduler Inbound) : Node :=
    { settings := plan.settings
      station := Station.fresh (stationPlan plan near) (.new near 16) [(.link .busCan, [1])]
      intakes := [⟨[1], q⟩]
      application := fun _ => none }
  let bus₁ := (bus.attach near .busCan).2
  have hbuilt : build plan bus = .ok (node (q [] .notStarted 0 0), bus₁) := by
    have hcheck : ({} : Settings).check = .ok () := by rfl
    obtain ⟨address, haddress, hbuild⟩ := build_of_check bus
      (show plan.settings.check = .ok () from hcheck) rfl
    have hnear : ({} : Settings).address = .ok near := by rfl
    obtain rfl : near = address := Except.ok.inj (hnear.symm.trans haddress)
    rw [hbuild]
    rfl
  let bus₂ := (bus₁.send 0 near .busCan (frame 5).bytes).2
  let bus₃ := (bus₂.send 0 near .busCan (frame 6).bytes).2
  let bus₄ := (bus₃.poll 1).2
  have hfirst : Bus.Feeds 1 bus₁ [⟨0, frame 5⟩] bus₂ :=
    .sent (e := { address := far, media := .busCan }) rfl
      (show bus₁.send 0 near .busCan (frame 5).bytes = (.ok (), bus₂) from rfl) rfl
  have hsecond : Bus.Feeds 1 bus₂ [⟨0, frame 6⟩] bus₃ :=
    .sent (e := { address := far, media := .busCan, traffic := (Traffic.sent 9 {}) }) rfl
      (show bus₂.send 0 near .busCan (frame 6).bytes = (.ok (), bus₃) from rfl) rfl
  let site (q : Scheduler Inbound) (bus : Bus) (polled : List Inbound) : LinkSite :=
    ⟨⟨node q, bus⟩, polled⟩
  let start := site (q [] .notStarted 0 0) bus₁ []
  have hmove {q : Scheduler Inbound} {b : Bus} {log : List Happening} (m : Move Inbound)
      (q' : Scheduler Inbound) (hrun : LinkSite.Run 0 1 start log (site q b [])) (own : m.isOwn = true)
      (hstep : q' = (q.step m).1) (hquiet : (q.step m).2.filterMap Happening.ofEvent? = []) :
      LinkSite.Run 0 1 start log (site q' b []) := by
    have hmoved : LinkSite.Step 0 1 (site q b []) _ (site (q.step m).1 b []) :=
      .moved (x := ⟨[1], q⟩) rfl own fun _ _ => rfl
    rw [← hstep, hquiet] at hmoved
    exact log.append_nil ▸ hrun.snoc hmoved
  have hoffer {q : Scheduler Inbound} {b : Bus} {f : Inbound} {rest : List Inbound}
      {log : List Happening} (q' : Scheduler Inbound)
      (hrun : LinkSite.Run 0 1 start log (site q b (f :: rest)))
      (polling : q.phase = .polling) (hstep : q' = (q.offer f).1)
      (hquiet : (q.offer f).2.filterMap Happening.ofEvent? = []) :
      LinkSite.Run 0 1 start log (site q' b rest) := by
    have hoffered : LinkSite.Step 0 1 (site q b (f :: rest)) _ (site (q.offer f).1 b rest) :=
      .offered (x := ⟨[1], q⟩) rfl polling rfl (.pushed [] nofun)
    rw [← hstep, hquiet] at hoffered
    exact log.append_nil ▸ hrun.snoc hoffered
  -- both frames come, and a poll takes them into the queue
  have hnil : LinkSite.Run 0 1 start [] start := .nil
  have hcame : LinkSite.Run 0 1 start [.came ⟨0, frame 5⟩, .came ⟨0, frame 6⟩]
      (site (q [] .notStarted 0 0) bus₃ []) :=
    (hnil.snoc (.around (t := ⟨node (q [] .notStarted 0 0), bus₃⟩) (hfirst.trans hsecond) rfl rfl) :)
  have hstarted := hmove .start (q [] .loopTest 0 0) hcame rfl rfl rfl
  have hpolling := hmove .advance (q [] .polling 0 0) hstarted rfl rfl rfl
  have hpolled : LinkSite.Run 0 1 start [.came ⟨0, frame 5⟩, .came ⟨0, frame 6⟩]
      (site (q [] .polling 0 0) bus₄ [frame 5, frame 6]) :=
    (hpolling.snoc (.polled rfl rfl rfl rfl) :)
  have hoffered := hoffer (q [frame 5] .polling 0 0) hpolled rfl rfl rfl
  have hqueued := hoffer (q [frame 5, frame 6] .polling 0 0) hoffered rfl rfl rfl
  -- the scheduler takes the first one out and hands it to the dispatcher
  have hblockTest := hmove .advance (q [frame 5, frame 6] .blockTest 1 0) hqueued rfl rfl rfl
  have hslotWait := hmove .advance (q [frame 5, frame 6] .slotWait 1 0) hblockTest rfl rfl rfl
  have htaking := hmove .advance (q [frame 5, frame 6] .taking 1 0) hslotWait rfl rfl rfl
  have htaken := hmove .advance (q [frame 6] (.dispatching (frame 5)) 1 1) htaking rfl rfl rfl
  have hworking := hmove .advance (q [frame 6] (.working (frame 5)) 1 1) htaken rfl rfl rfl
  have hhandled := hworking.snoc (.of_receive (f := frame 5) (a := ⟨.ok (), [item]⟩) rfl rfl rfl
    (by decide +kernel) (by decide +kernel) (.quiet (by decide +kernel)))
  obtain ⟨r, hr, horder⟩ := link_in_order hbuilt (k := 0) rfl
  obtain rfl : 1 = r := by simpa [node] using hr
  obtain ⟨x, xs, hx, hxs⟩ := (horder _ _ hhandled).1
  have hleft : x = ⟨[1], ((q [frame 6] (.working (frame 5)) 1 1).step (.workEnds false)).1⟩ := by
    rw [NodeSite.intakeStep_working (x := ⟨[1], q [frame 6] (.working (frame 5)) 1 1⟩) rfl rfl] at hx
    exact Option.some.inj hx.symm
  refine ⟨rfl, rfl, _, bus₁, _, x, xs, hbuilt, hhandled, hx, hxs, ?_⟩
  rw [hleft]
  rfl

end Multilink
