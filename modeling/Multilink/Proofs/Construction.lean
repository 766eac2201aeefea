import Multilink.Node
/-!
# What nodes are built from

Settings are checked before a node is built, and its parts check again what they are given.
`Settings.check_eq_ok_iff` says what the check asks for, and `Settings.suits_of_check` that no part
refuses what it is given. But memory for the peers is allocated without a check. `Node.build_iff` says
which nodes can be built.
-/

namespace Multilink

theorem Except.bind_eq_ok_iff {ε α β : Type} {x : Except ε α} {f : α → Except ε β} {b : β} :
    x >>= f = .ok b ↔ ∃ a, x = .ok a ∧ f a = .ok b := by
  cases x with
  | error e => exact ⟨nofun, fun ⟨_, h, _⟩ => nomatch h⟩
  | ok a => exact ⟨fun h => ⟨a, rfl, h⟩, fun ⟨_, h, hb⟩ => by cases h; exact hb⟩

theorem Except.mapError_eq_ok_iff {ε ε' α : Type} {f : ε → ε'} {x : Except ε α} {a : α} :
    x.mapError f = .ok a ↔ x = .ok a := by
  cases x with
  | error e => exact ⟨nofun, nofun⟩
  | ok b => exact ⟨fun h => by cases h; rfl, fun h => by cases h; rfl⟩

theorem Except.bind_eq_error_iff {ε α β : Type} {x : Except ε α} {f : α → Except ε β} {e : ε} :
    x >>= f = .error e ↔ x = .error e ∨ ∃ a, x = .ok a ∧ f a = .error e := by
  cases x with
  | error e' => exact ⟨fun h => .inl (by cases h; rfl), fun h => h.elim (fun h => by cases h; rfl) nofun⟩
  | ok a => exact ⟨fun h => .inr ⟨a, rfl, h⟩, fun h => h.elim nofun fun ⟨_, h, he⟩ => by cases h; exact he⟩

/-- What refuses does not panic. -/
theorem mapError_refused_ne {α : Type} (x : Except Error α) :
    x.mapError BuildFailure.refused ≠ .error .panicked := by
  cases x <;> exact nofun

/-! ## Settings that are accepted -/

namespace Settings

variable {s : Settings}

theorem check_eq_ok_iff : s.check = .ok () ↔
    nameFits s.node.name = true ∧ (∃ a, s.address = .ok a) ∧ ∀ fault ∈ s.faults, fault.1 = false := by
  unfold check
  cases nameFits s.node.name with
  | false => exact ⟨nofun, nofun⟩
  | true =>
    cases s.address with
    | error e => exact ⟨nofun, fun ⟨_, ⟨_, h⟩, _⟩ => nomatch h⟩
    | ok a =>
      cases hfault : s.faults.find? (·.1) with
      | none =>
        rw [List.find?_eq_none] at hfault
        exact ⟨fun _ => ⟨rfl, ⟨a, rfl⟩, by simpa using hfault⟩, fun _ => rfl⟩
      | some fault =>
        refine ⟨nofun, fun ⟨_, _, h⟩ => ?_⟩
        have hgood := h fault (List.mem_of_find?_eq_some hfault)
        cases hgood.symm.trans (List.find?_some hfault)

theorem lockTimeoutMs_ne_zero (h : s.check = .ok ()) : s.queue.lockTimeoutMs ≠ 0 := by
  have hfault := (check_eq_ok_iff.1 h).2.2
    (s.queue.lockTimeoutMs == 0, "queue.lock_timeout_ms must be non-zero") (by simp [faults])
  simpa using hfault

theorem sendAttempts_ne_zero (h : s.check = .ok ()) : s.messaging.sendAttempts ≠ 0 := by
  have hfault := (check_eq_ok_iff.1 h).2.2
    (s.messaging.sendAttempts == 0, "messaging.send_attempts must be non-zero") (by simp [faults])
  simpa using hfault

theorem awakeMs_ne_zero (h : s.check = .ok ()) : s.orchestration.awakeMs ≠ 0 := by
  have hfault := (check_eq_ok_iff.1 h).2.2
    (s.orchestration.awakeMs == 0, "orchestration.awake_ms must be non-zero") (by simp [faults])
  simpa using hfault

theorem vetoSlice_lt_awake (h : s.check = .ok ()) : s.timings.vetoSlice < s.timings.awake := by
  have hfault := (check_eq_ok_iff.1 h).2.2
    (s.orchestration.awakeMs ≤ s.orchestration.vetoSliceMs,
      "orchestration.veto_slice_ms must be shorter than awake_ms") (by simp [faults])
  have hlt : s.orchestration.vetoSliceMs < s.orchestration.awakeMs := by simpa using hfault
  show s.orchestration.vetoSliceMs * 1000 < s.orchestration.awakeMs * 1000
  omega

end Settings

/-! ## Parts -/

theorem WorkQueue.exists_build? {α : Type} {q : QueueSettings} (h : q.lockTimeoutMs ≠ 0) :
    (WorkQueue.build? q true : Except QueueError (WorkQueue α)) = .ok { settings := q } := by
  simp [build?, h]

theorem Kind.filterable_iff (k : Kind) :
    k.filterable = true ↔ k = .request ∨ k = .reply ∨ k = .data := by
  cases k <;> simp [filterable]

/-- A dispatcher is built from a driver at least, an attempt at least, and filters for the kinds that
have them. -/
theorem Wiring.check_eq_ok_iff {W : Type} (w : Wiring W) : w.check = .ok () ↔
    w.drivers ≠ [] ∧ w.attempts ≠ 0 ∧ ∀ f ∈ w.filters, f.1.filterable = true := by
  unfold check
  by_cases hdrivers : w.drivers = []
  · simp [hdrivers]
  · by_cases hattempts : w.attempts = 0
    · simp [hdrivers, hattempts]
    · simp only [List.isEmpty_iff, hdrivers, hattempts, if_false]
      cases hfilter : w.filters.find? (!·.1.filterable) with
      | none =>
        rw [List.find?_eq_none] at hfilter
        exact ⟨fun _ => ⟨hdrivers, hattempts, by simpa using hfilter⟩, fun _ => rfl⟩
      | some f =>
        refine ⟨nofun, fun ⟨_, _, h⟩ => ?_⟩
        have hgood := h f (List.mem_of_find?_eq_some hfilter)
        simpa [hgood] using List.find?_some hfilter

/-- What the parts of a node ask of the settings that they are configured with. -/
structure Settings.Suits (s : Settings) : Prop where
  address : ∃ a, s.address = .ok a
  queue {α : Type} (name : String) :
    ∃ q : WorkQueue α, WorkQueue.build? (s.queueSettings name) true = .ok q
  intake (outlet : Outlet) (endpoints : List EndpointId) :
    ∃ k, Node.buildIntake s outlet endpoints = .ok k
  dispatcher {W : Type} (drivers : List (Driver W)) (filters : List (Kind × Filter)) :
    ({ s.wiring drivers with filters } : Wiring W).check = .ok () ↔
      drivers ≠ [] ∧ ∀ f ∈ filters, f.1.filterable = true

theorem Settings.suits_of_check {s : Settings} (h : s.check = .ok ()) : s.Suits where
  address := (check_eq_ok_iff.1 h).2.1
  queue name := ⟨_, WorkQueue.exists_build? (lockTimeoutMs_ne_zero h)⟩
  intake outlet endpoints := by
    have hlock : (Node.intakeSettings s outlet).lockTimeoutMs ≠ 0 := lockTimeoutMs_ne_zero h
    rw [Node.buildIntake, WorkQueue.exists_build? hlock]
    exact ⟨_, rfl⟩
  dispatcher drivers filters := by
    rw [Wiring.check_eq_ok_iff]
    exact and_congr_right fun _ => and_iff_right (sendAttempts_ne_zero h)

/-! ## Stations and nodes -/

theorem Outlet.attachEach_eq_nil_iff (address : Address) (outlets : List Outlet) (bus : Bus) :
    (attachEach address outlets bus).1 = [] ↔ outlets = [] := by
  cases outlets with
  | nil => exact ⟨fun _ => rfl, fun _ => rfl⟩
  | cons outlet rest => exact ⟨nofun, nofun⟩

theorem PeerStore.allocate_eq_ok_iff {memory : Memory} {a : Address} {capacity : Nat}
    {s : PeerStore} :
    allocate memory a capacity = .ok s ↔ capacity ≤ memory.slots ∧ new a capacity = s := by
  unfold allocate
  split
  · next h => exact ⟨fun hs => ⟨h, by cases hs; rfl⟩, fun ⟨_, hs⟩ => congrArg _ hs⟩
  · next h => exact ⟨nofun, fun ⟨hroom, _⟩ => absurd hroom h⟩

theorem PeerStore.allocate_eq_error_iff {memory : Memory} {a : Address} {capacity : Nat} :
    allocate memory a capacity = .error .panicked ↔ memory.slots < capacity := by
  unfold allocate
  split
  · next h => exact iff_of_false nofun (Nat.not_lt.2 h)
  · next h => exact iff_of_true rfl (Nat.lt_of_not_le h)

/-- What a station consists of. -/
theorem Station.build_eq_ok_iff {plan : StationPlan} {bus : Bus} {r : Station × Bus} :
    build plan bus = .ok r ↔
      plan.peerCapacity ≤ plan.memory.slots ∧
        (plan.outlets ≠ [] ∧ plan.attempts ≠ 0 ∧ ∀ f ∈ plan.filters, f.1.filterable = true) ∧
        r = (fresh plan (.new plan.address plan.peerCapacity)
            (Outlet.attachEach plan.address plan.outlets bus).1,
          (Outlet.attachEach plan.address plan.outlets bus).2) := by
  let attached := (Outlet.attachEach plan.address plan.outlets bus).1
  have hcheck := Wiring.check_eq_ok_iff (wire plan attached)
  have hdrivers : (wire plan attached).drivers = [] ↔ plan.outlets = [] := by
    rw [wire, List.map_eq_nil_iff, Outlet.attachEach_eq_nil_iff]
  rw [Ne, hdrivers] at hcheck
  rw [← show _ ↔ plan.outlets ≠ [] ∧ plan.attempts ≠ 0 ∧ ∀ f ∈ plan.filters, f.1.filterable = true
    from hcheck]
  unfold build
  constructor
  · intro h
    obtain ⟨peers, hpeers, h⟩ := Except.bind_eq_ok_iff.1 h
    obtain ⟨hroom, rfl⟩ := PeerStore.allocate_eq_ok_iff.1 hpeers
    obtain ⟨⟨⟩, hok, h⟩ := Except.bind_eq_ok_iff.1 h
    cases h
    exact ⟨hroom, Except.mapError_eq_ok_iff.1 hok, rfl⟩
  · rintro ⟨hroom, hok, rfl⟩
    refine Except.bind_eq_ok_iff.2 ⟨_, PeerStore.allocate_eq_ok_iff.2 ⟨hroom, rfl⟩, ?_⟩
    exact Except.bind_eq_ok_iff.2 ⟨(), Except.mapError_eq_ok_iff.2 hok, rfl⟩

theorem Station.build_panicked_iff (plan : StationPlan) (bus : Bus) :
    build plan bus = .error .panicked ↔ plan.memory.slots < plan.peerCapacity := by
  unfold build
  rw [Except.bind_eq_error_iff, PeerStore.allocate_eq_error_iff]
  refine ⟨fun h => h.resolve_right ?_, .inl⟩
  rintro ⟨peers, -, h⟩
  obtain h | ⟨⟨⟩, -, h⟩ := Except.bind_eq_error_iff.1 h
  · exact mapError_refused_ne _ h
  · cases h

theorem Node.exists_buildIntakes {s : Settings} (h : s.Suits) (outlets : List Outlet)
    (endpoints : List (List EndpointId)) : ∃ ks, buildIntakes s outlets endpoints = .ok ks := by
  induction outlets generalizing endpoints with
  | nil => exact ⟨[], by cases endpoints <;> rfl⟩
  | cons outlet outlets ih =>
    cases endpoints with
    | nil => exact ⟨[], rfl⟩
    | cons links rest =>
      obtain ⟨k, hk⟩ := h.intake outlet links
      obtain ⟨ks, hks⟩ := ih rest
      rw [buildIntakes, hk, hks]
      exact ⟨k :: ks, rfl⟩

/-- What a node consists of. -/
theorem Node.eq_of_build {plan : NodePlan} {bus bus' : Bus} {node : Node}
    (h : build plan bus = .ok (node, bus')) :
    ∃ application address attached intakes,
      Outlet.attachEach address plan.outlets bus = (attached, bus') ∧
      buildIntakes plan.settings plan.outlets (attached.map (·.2)) = .ok intakes ∧
      plan.settings.node.peerCapacity ≤ plan.memory.slots ∧
      node =
        { settings := plan.settings
          station := Station.fresh (stationPlan plan address)
            (.new address plan.settings.node.peerCapacity) attached
          intakes
          application } := by
  unfold build at h
  obtain ⟨⟨⟩, -, h⟩ := Except.bind_eq_ok_iff.1 h
  cases happ : plan.application with
  | none =>
    rw [happ] at h
    cases h
  | some application =>
    rw [happ] at h
    obtain ⟨address, -, h⟩ := Except.bind_eq_ok_iff.1 h
    obtain ⟨-, -, h⟩ := Except.bind_eq_ok_iff.1 h
    obtain ⟨⟨station, bus''⟩, hstation, h⟩ := Except.bind_eq_ok_iff.1 h
    obtain ⟨intakes, hintakes, h⟩ := Except.bind_eq_ok_iff.1 h
    cases h
    obtain ⟨hroom, -, hbuilt⟩ := Station.build_eq_ok_iff.1 hstation
    cases hbuilt
    exact ⟨application, address, _, intakes, rfl, Except.mapError_eq_ok_iff.1 hintakes, hroom, rfl⟩

/-- With settings that are accepted and an application, a node is built up to its station. -/
theorem Node.build_of_check {plan : NodePlan} {application : Application} (bus : Bus)
    (hcheck : plan.settings.check = .ok ()) (happ : plan.application = some application) :
    ∃ address, plan.settings.address = .ok address ∧
      build plan bus = (do
        let (station, bus) ← Station.build (stationPlan plan address) bus
        let intakes ← (buildIntakes plan.settings plan.outlets station.outlets).mapError .refused
        pure ({ settings := plan.settings, station, intakes, application }, bus)) := by
  have hsuits := Settings.suits_of_check hcheck
  obtain ⟨address, haddress⟩ := hsuits.address
  obtain ⟨queue, hqueue⟩ := hsuits.queue (α := Message) "sdp-dispatch"
  refine ⟨address, haddress, ?_⟩
  rw [build, hcheck, happ]
  show (plan.settings.address.mapError BuildFailure.refused >>= _) = _
  rw [haddress]
  show ((WorkQueue.build? _ true).mapError _ >>= _) = _
  rw [hqueue]
  rfl

/-- The build of a node panics exactly if nothing is refused before its peers get too little memory. -/
theorem Node.build_panicked_iff (plan : NodePlan) (bus : Bus) :
    build plan bus = .error .panicked ↔ plan.settings.check = .ok () ∧
      plan.application.isSome = true ∧ plan.memory.slots < plan.settings.node.peerCapacity := by
  cases hcheck : plan.settings.check with
  | error e =>
    rw [build, hcheck]
    exact iff_of_false nofun fun h => nomatch h.1
  | ok _ =>
    cases happ : plan.application with
    | none =>
      rw [build, hcheck, happ]
      exact iff_of_false nofun fun h => nomatch h.2.1
    | some application =>
      obtain ⟨address, -, hbuild⟩ := build_of_check bus hcheck happ
      have hstation := Station.build_panicked_iff (stationPlan plan address) bus
      rw [hbuild, ← show _ ↔ plan.memory.slots < plan.settings.node.peerCapacity from hstation,
        Except.bind_eq_error_iff]
      refine ⟨fun h => ⟨rfl, rfl, h.resolve_right ?_⟩, fun h => .inl h.2.2⟩
      rintro ⟨r, -, h⟩
      obtain h | ⟨intakes, -, h⟩ := Except.bind_eq_error_iff.1 h
      · exact mapError_refused_ne _ h
      · cases h

/-- A node can be built exactly from settings that are accepted, an application, an outlet at least
and filters for requests, replies and data, if memory has room for its peers. Of settings that are
accepted no part of a node refuses what it is given, whatever its drivers are; but the build panics
where they ask for more peers than memory has room for, and some ask for more than any has. -/
theorem Node.build_iff (plan : NodePlan) (bus : Bus) :
    ((∃ node bus', build plan bus = .ok (node, bus')) ↔
      plan.settings.check = .ok () ∧ plan.application.isSome = true ∧ plan.outlets ≠ [] ∧
        (∀ f ∈ plan.filters, f.1 = .request ∨ f.1 = .reply ∨ f.1 = .data) ∧
        plan.settings.node.peerCapacity ≤ plan.memory.slots) ∧
    (plan.settings.check = .ok () → plan.settings.Suits) ∧
    (build plan bus = .error .panicked ↔ plan.settings.check = .ok () ∧
      plan.application.isSome = true ∧ plan.memory.slots < plan.settings.node.peerCapacity) ∧
    ∃ s : Settings, s.check = .ok () ∧ ∀ memory : Memory, memory.slots < s.node.peerCapacity := by
  refine ⟨?_, Settings.suits_of_check, build_panicked_iff plan bus, ?_⟩
  · simp only [← Kind.filterable_iff]
    constructor
    · rintro ⟨node, bus', h⟩
      obtain ⟨⟨⟩, hcheck, h'⟩ := Except.bind_eq_ok_iff.1 h
      have hcheck := Except.mapError_eq_ok_iff.1 hcheck
      cases happ : plan.application with
      | none =>
        rw [happ] at h'
        cases h'
      | some application =>
        obtain ⟨address, -, hbuild⟩ := build_of_check bus hcheck happ
        rw [hbuild] at h
        obtain ⟨r, hstation, -⟩ := Except.bind_eq_ok_iff.1 h
        obtain ⟨hroom, ⟨houtlets, -, hfilters⟩, -⟩ := Station.build_eq_ok_iff.1 hstation
        exact ⟨hcheck, rfl, houtlets, hfilters, hroom⟩
    · rintro ⟨hcheck, happ, houtlets, hfilters, hroom⟩
      obtain ⟨application, happ⟩ := Option.isSome_iff_exists.1 happ
      obtain ⟨address, -, hbuild⟩ := build_of_check bus hcheck happ
      obtain ⟨r, hr⟩ : ∃ r, Station.build (stationPlan plan address) bus = .ok r :=
        ⟨_, Station.build_eq_ok_iff.2
          ⟨hroom, ⟨houtlets, Settings.sendAttempts_ne_zero hcheck, hfilters⟩, rfl⟩⟩
      obtain ⟨intakes, hintakes⟩ :=
        exists_buildIntakes (Settings.suits_of_check hcheck) plan.outlets r.1.outlets
      rw [hbuild, hr]
      show ∃ node bus', ((buildIntakes plan.settings plan.outlets r.1.outlets).mapError _ >>= _) =
        Except.ok (node, bus')
      rw [hintakes]
      exact ⟨_, _, rfl⟩
  · refine ⟨{ node := { peerCapacity := 0x7FFFFFFFFFFFFFFF } }, by rfl, fun memory => ?_⟩
    have hbounded := memory.bounded
    show memory.slots < 0x7FFFFFFFFFFFFFFF
    omega

end Multilink
