import Mathlib.Data.List.Basic
import Multilink.Proofs.BusCalls
/-!
# Which frames injected damage hits

An endpoint can be told to damage its next frames. `Bus.Transmits` are the steps of a bus until it is
told so again, each with the sends of the endpoint in it. The sends that get past the faults of the
endpoint use the damage up one by one, the first of them first, whether a frame comes of them or not
(`Bus.Spent`). So the damage hits the frames that were meant exactly if it is not used up on sends that
deliver nothing: `Bus.hitsPromised_iff`.
-/

namespace Multilink

instance (e : Endpoint) (media : Media) (bytes : Bytes) : Decidable (e.Passes media bytes) :=
  decidable_of_iff
    (media = e.media ∧ e.linkDown = false ∧ e.failNext = 0 ∧ bytes.length ≤ e.maxFrame)
    ⟨fun ⟨own, up, unfailing, fits⟩ => ⟨own, up, unfailing, fits⟩,
      fun ⟨own, up, unfailing, fits⟩ => ⟨own, up, unfailing, fits⟩⟩

namespace Bus

variable {b b' c d : Bus} {i k : EndpointId} {e : Endpoint} {target : Address} {media : Media}
  {bytes : Bytes} {n : Nat}

/-! ## Sends of an endpoint -/

/-- A send of an endpoint: the frame, whether it got past the faults of the endpoint, and what came to
its destination, if it had one. -/
structure Transmission where
  bytes : Bytes
  passed : Bool
  received : Option Bytes

/-- What was sent and what came of it, if a frame that is not empty was delivered. -/
def Transmission.delivered? (s : Transmission) : Option (Bytes × Bytes) :=
  if s.bytes = [] then none else s.received.map (s.bytes, ·)

def Effect.received? : Effect → Option Bytes
  | .arrived _ f => some f.bytes
  | _ => none

/-- The sends of an endpoint in a call. -/
def transmissions (i : EndpointId) (b : Bus) (call : Call) (eff : Effect) : List Transmission :=
  match call with
  | .send j _ media bytes =>
    if j = i then
      [⟨bytes, (b.endpoint? i).any fun e => decide (e.Passes media bytes), eff.received?⟩]
    else []
  | _ => []

/-- How many frames of an endpoint a call says are to be damaged, if it says so. -/
def Call.damages? (i : EndpointId) : Call → Option Nat
  | .set j faults => if j = i then faults.corruptNext else none
  | _ => none

/-- A step of the bus with the sends of an endpoint in it, which does not say anew how many of its
frames are to be damaged. -/
inductive Transmits (i : EndpointId) (b : Bus) : List Transmission → Bus → Prop
  | step {call : Call} {eff : Effect} {b' : Bus} (run : Step b call eff b')
      (same : call.damages? i = none) : Transmits i b (transmissions i b call eff) b'

/-- The sends that got past the faults of the endpoint. -/
def passing (log : List Transmission) : List Transmission :=
  log.filter (·.passed)

/-- What was sent and what came of it, frame by frame, of those delivered that are not empty. -/
def landed (log : List Transmission) : List (Bytes × Bytes) :=
  log.filterMap Transmission.delivered?

/-- Of the frames delivered, but for empty ones, the next `n` are damaged and the later ones are not. -/
def HitsPromised (n : Nat) (log : List Transmission) : Prop :=
  ∀ k bs r, (landed log)[k]? = some (bs, r) →
    r = if k < n then damage bs else bs

/-! ## Damage that is left -/

/-- How many frames of an endpoint are yet to be damaged. -/
def damageLeft (i : EndpointId) (b : Bus) : Option Nat :=
  (b.endpoint? i).map (·.corruptNext)

theorem damageLeft_update {f : Endpoint → Endpoint} (hf : ∀ e, (f e).corruptNext = e.corruptNext)
    (i k : EndpointId) (b : Bus) : (b.update i f).damageLeft k = b.damageLeft k :=
  map_endpoint?_update hf i k b

theorem damageLeft_deliver (target : Address) (f : Inbound) (b : Bus) (k : EndpointId) :
    (b.deliver target f).2.damageLeft k = b.damageLeft k := by
  unfold deliver
  split
  · rfl
  · exact damageLeft_update (f := Endpoint.push f) (fun _ => rfl) _ _ _

theorem damageLeft_spend (i k : EndpointId) (b : Bus) :
    (b.update i Endpoint.spendDamage).damageLeft k =
      if i = k then (b.damageLeft k).map (· - 1) else b.damageLeft k := by
  rw [damageLeft, damageLeft, endpoint?_update]
  split
  · rw [Option.map_map, Option.map_map]
    rfl
  · rfl

theorem damageLeft_transmit (he : b.endpoint? i = some e) (target : Address) (media : Media)
    (bytes : Bytes) (k : EndpointId) :
    (b.transmit i e target media bytes).2.damageLeft k =
      if i = k ∧ e.Passes media bytes then (b.damageLeft k).map (· - 1) else b.damageLeft k := by
  obtain ⟨hhindered, error, hrun | hrun⟩ | ⟨hpasses, hrun⟩ :=
    transmit_cases i e target media bytes b
  · rw [hrun, if_neg fun h => hhindered h.2]
  · rw [hrun, if_neg fun h => hhindered h.2]
    exact damageLeft_update (f := Endpoint.spendFailure) (fun _ => rfl) _ _ _
  · rw [hrun, damageLeft_deliver]
    simp only [hpasses, and_true]
    by_cases hsome : 0 < e.corruptNext
    · rw [if_pos hsome]
      exact damageLeft_spend i k b
    · rw [if_neg hsome]
      split
      · next hk =>
        subst hk
        rw [damageLeft, he, Option.map_some, Option.map_some, Nat.eq_zero_of_not_pos hsome]
      · rfl

theorem damageLeft_send (he : b.endpoint? i = some e) (target : Address) (media : Media)
    (bytes : Bytes) (k : EndpointId) :
    (b.send i target media bytes).2.damageLeft k =
      if i = k ∧ e.Passes media bytes then (b.damageLeft k).map (· - 1) else b.damageLeft k := by
  rw [← damageLeft_transmit he target media bytes k]
  unfold send
  rw [he]
  dsimp only
  split
  · next hrun =>
    rw [hrun]
    exact damageLeft_update (f := Endpoint.countSent bytes.length) (fun _ => rfl) _ _ _
  · next hrun =>
    rw [hrun]
    exact damageLeft_update (f := Endpoint.countFailed) (fun _ => rfl) _ _ _

/-- A call that is no send of the endpoint leaves its damage as it is, unless it says how much there is
to be. -/
theorem Step.damageLeft_eq {call : Call} {eff : Effect} (h : Step b call eff b')
    (hsend : ∀ target media bytes, call ≠ .send i target media bytes)
    (hsame : call.damages? i = none) (hi : b.damageLeft i ≠ none) :
    b'.damageLeft i = b.damageLeft i := by
  have hother {j : EndpointId} {e : Endpoint} (he : b.endpoint? j = some e) (hj : j ≠ i)
      (target : Address) (media : Media) (bytes : Bytes) :
      (b.send j target media bytes).2.damageLeft i = b.damageLeft i := by
    rw [damageLeft_send he, if_neg fun h => hj h.1]
  have hpoll {j : EndpointId} {e : Endpoint} (he : b.endpoint? j = some e) :
      (b.poll j).2.damageLeft i = b.damageLeft i := by
    let f (e' : Endpoint) : Endpoint := { e' with pending := [], traffic := e.trafficPolled }
    rw [poll_eq he]
    exact damageLeft_update (f := f) (fun _ => rfl) _ _ _
  cases h with
  | attach address media =>
    have hne : i ≠ b.endpoints.length := fun he => hi (by
      rw [damageLeft, endpoint?, List.getElem?_eq_none (Nat.le_of_eq he.symm)]
      rfl)
    exact (map_endpoint?_attach (·.corruptNext) address media b i).trans (if_neg hne)
  | detach address media => rfl
  | drop live =>
    let f (e : Endpoint) : Endpoint := { e with dropped := true }
    exact damageLeft_update (f := f) (fun _ => rfl) _ _ _
  | @set j e faults live =>
    by_cases hj : j = i
    · have hnone : faults.corruptNext = none := by rwa [Call.damages?, if_pos hj] at hsame
      have hf (e : Endpoint) : (e.set faults).corruptNext = e.corruptNext := by
        rw [Endpoint.set, hnone, Option.getD_none]
      exact damageLeft_update hf _ _ _
    · rw [damageLeft, endpoint?_update_of_ne hj]
      rfl
  | @failed j e target media bytes error b' live run =>
    have hleft := hother live.1 (fun hj => hsend target media bytes (hj ▸ rfl)) target media bytes
    rwa [run] at hleft
  | @arrived j k e target media bytes f b' live run grown =>
    have hleft := hother live.1 (fun hj => hsend target media bytes (hj ▸ rfl)) target media bytes
    rwa [run] at hleft
  | handed live up => exact hpoll live.1
  | lost live down => exact hpoll live.1

/-! ## What the damage is used up on -/

variable {log es : List Transmission}

/-- Of `n` frames to be damaged, the sends that got past the faults have used up one each, and these
are the frames that were damaged. -/
structure Spent (i : EndpointId) (n : Nat) (log : List Transmission) (b : Bus) : Prop where
  left : b.damageLeft i = some (n - (passing log).length)
  passed : ∀ s ∈ log, s.received ≠ none → s.passed = true
  bytes : ∀ k s r, (passing log)[k]? = some s → s.received = some r →
    r = if k < n then damage s.bytes else s.bytes

theorem Spent.hindered {s : Transmission} (h : Spent i n log b)
    (hleft : b'.damageLeft i = b.damageLeft i) (hpassed : s.passed = false)
    (hreceived : s.received = none) : Spent i n (log ++ [s]) b' := by
  have hpassing : passing (log ++ [s]) = passing log := by simp [passing, hpassed]
  refine ⟨?_, fun x hx hsome => ?_, ?_⟩
  · rw [hleft, hpassing, h.left]
  · rcases List.mem_append.1 hx with hx | hx
    · exact h.passed x hx hsome
    · cases List.mem_singleton.1 hx
      exact absurd hreceived hsome
  · rw [hpassing]
    exact h.bytes

theorem Spent.used {s : Transmission} (h : Spent i n log b)
    (hleft : b'.damageLeft i = (b.damageLeft i).map (· - 1)) (hpassed : s.passed = true)
    (hreceived : ∀ r, s.received = some r →
      r = if (passing log).length < n then damage s.bytes else s.bytes) :
    Spent i n (log ++ [s]) b' := by
  have hpassing : passing (log ++ [s]) = passing log ++ [s] := by simp [passing, hpassed]
  refine ⟨?_, fun x hx hsome => ?_, fun k x r hx hr => ?_⟩
  · rw [hleft, hpassing, h.left, List.length_append, Nat.sub_add_eq]
    rfl
  · rcases List.mem_append.1 hx with hx | hx
    · exact h.passed x hx hsome
    · cases List.mem_singleton.1 hx
      exact hpassed
  · rw [hpassing] at hx
    rcases Nat.lt_or_ge k (passing log).length with hk | hk
    · rw [List.getElem?_append_left hk] at hx
      exact h.bytes k x r hx hr
    · rw [List.getElem?_append_right hk] at hx
      have hlast : k = (passing log).length := by
        have hlt := (List.getElem?_eq_some_iff.1 hx).1
        rw [List.length_singleton] at hlt
        omega
      cases List.mem_singleton.1 (List.mem_of_getElem? hx)
      rw [hlast]
      exact hreceived r hr

/-- A send of the endpoint, whatever it comes to. -/
theorem Spent.send {eff : Effect} (h : Spent i n log b) (he : b.endpoint? i = some e)
    (hleft : b'.damageLeft i = (b.send i target media bytes).2.damageLeft i)
    (hreceived : ∀ r, eff.received? = some r →
      e.Passes media bytes ∧ r = (e.frame bytes).bytes) :
    Spent i n (log ++ transmissions i b (.send i target media bytes) eff) b' := by
  have hcorrupt : e.corruptNext = n - (passing log).length := by
    have hb := h.left
    rw [damageLeft, he] at hb
    exact Option.some.inj hb
  rw [damageLeft_send he] at hleft
  rw [transmissions, if_pos rfl, he, Option.any_some]
  by_cases hpasses : e.Passes media bytes
  · rw [if_pos ⟨rfl, hpasses⟩] at hleft
    refine h.used hleft (decide_eq_true hpasses) fun r hr => ?_
    rw [(hreceived r hr).2, Endpoint.frame, hcorrupt]
    simp only [Nat.sub_pos_iff_lt]
  · rw [if_neg fun h => hpasses h.2] at hleft
    refine h.hindered hleft (decide_eq_false hpasses) ?_
    exact Option.eq_none_iff_forall_ne_some.2 fun r hr => hpasses (hreceived r hr).1

theorem Spent.step (h : Spent i n log b) (hs : Transmits i b es b') : Spent i n (log ++ es) b' := by
  obtain ⟨run, same⟩ := hs
  rename_i call eff
  have hleft : b.damageLeft i ≠ none := by rw [h.left]; exact Option.some_ne_none _
  by_cases hcall : ∃ target media bytes, call = .send i target media bytes
  · obtain ⟨target, media, bytes, rfl⟩ := hcall
    cases run with
    | failed live run => exact h.send live.1 (by rw [run]) nofun
    | arrived live run grown =>
      refine h.send live.1 (by rw [run]) fun r hr => ?_
      cases hr
      exact ⟨((send_ok_iff live.1).1 (by rw [run])).1,
        congrArg Inbound.bytes (waiting_arrived live.1 run grown).1⟩
  · have hsame := run.damageLeft_eq (fun t m bs he => hcall ⟨t, m, bs, he⟩) same hleft
    have hnone : transmissions i b call eff = [] := by
      cases call with
      | send j target media bytes =>
        exact if_neg fun (hj : j = i) => hcall ⟨target, media, bytes, hj ▸ rfl⟩
      | _ => rfl
    rw [hnone, List.append_nil]
    exact ⟨hsame.trans h.left, h.passed, h.bytes⟩

theorem Spent.run (h : Spent i n [] b) (run : Logged (Transmits i) b log c) : Spent i n log c := by
  induction run with
  | nil => exact h
  | snoc _ hs ih => exact ih.step hs

/-- What is left to be damaged when an endpoint is told. -/
theorem spent_set {faults : Faults} (hn : faults.corruptNext = some n)
    (told : Step b (.set i faults) .quiet c) : Spent i n [] c := by
  cases told with
  | set _ live =>
    refine ⟨?_, nofun, nofun⟩
    rw [damageLeft, endpoint?_update_self live.1, Option.map_some, Endpoint.set, hn]
    rfl

/-! ## The frames that are hit -/

theorem damage_ne {bs : Bytes} (h : bs ≠ []) : damage bs ≠ bs := by
  induction bs with
  | nil => exact absurd rfl h
  | cons b rest ih =>
    cases rest with
    | nil =>
      intro hb
      have hflip : b ^^^ (b ^^^ 1) = b ^^^ b := congrArg (b ^^^ ·) (List.cons.inj hb).1
      rw [← UInt8.xor_assoc, UInt8.xor_self, UInt8.zero_xor] at hflip
      cases hflip
    | cons b' rest => exact fun hb => ih (List.cons_ne_nil _ _) (List.cons.inj hb).2

theorem delivered?_eq_some_iff {s : Transmission} {bs r : Bytes} :
    s.delivered? = some (bs, r) ↔ s.bytes ≠ [] ∧ s.bytes = bs ∧ s.received = some r := by
  unfold Transmission.delivered?
  split
  · next hempty => simp [hempty]
  · next hsome =>
    rw [Option.map_eq_some_iff]
    constructor
    · rintro ⟨r', hr, he⟩
      cases he
      exact ⟨hsome, rfl, hr⟩
    · rintro ⟨-, rfl, hr⟩
      exact ⟨r, hr, rfl⟩

theorem Spent.landed_eq (h : Spent i n log b) :
    landed log = landed ((passing log).take n) ++ landed ((passing log).drop n) := by
  rw [landed, landed, landed, ← List.filterMap_append, List.take_append_drop, passing,
    List.filterMap_filter]
  refine List.filterMap_congr fun s hs => ?_
  split
  · rfl
  · next hpassed =>
    have hnone : s.received = none := Decidable.byContradiction fun he => hpassed (h.passed s hs he)
    rw [Transmission.delivered?, hnone, Option.map_none, ite_self]

theorem Spent.of_take (h : Spent i n log b) {bs r : Bytes}
    (hmem : (bs, r) ∈ landed ((passing log).take n)) : r = damage bs := by
  obtain ⟨s, hs, hdelivered⟩ := List.mem_filterMap.1 hmem
  obtain ⟨-, rfl, hr⟩ := delivered?_eq_some_iff.1 hdelivered
  obtain ⟨j, hj⟩ := List.getElem?_of_mem hs
  rw [List.getElem?_take] at hj
  split at hj
  · next hlt => exact (h.bytes j s r hj hr).trans (if_pos hlt)
  · cases hj

theorem Spent.of_drop (h : Spent i n log b) {bs r : Bytes}
    (hmem : (bs, r) ∈ landed ((passing log).drop n)) : r = bs ∧ bs ≠ [] := by
  obtain ⟨s, hs, hdelivered⟩ := List.mem_filterMap.1 hmem
  obtain ⟨hne, rfl, hr⟩ := delivered?_eq_some_iff.1 hdelivered
  obtain ⟨j, hj⟩ := List.getElem?_of_mem hs
  rw [List.getElem?_drop] at hj
  exact ⟨(h.bytes _ s r hj hr).trans (if_neg (Nat.not_lt.2 (Nat.le_add_right n j))), hne⟩

/-- The damage is used up when the first frame arrives that it misses, so that all is well if `n` have
been hit by then. -/
theorem Spent.hits_iff (h : Spent i n log b) : HitsPromised n log ↔
    n ≤ (landed ((passing log).take n)).length ∨ landed ((passing log).drop n) = [] := by
  have hhit {bs r : Bytes} (hmem : (bs, r) ∈ landed ((passing log).take n)) : r = damage bs :=
    h.of_take hmem
  have hmissed {bs r : Bytes} (hmem : (bs, r) ∈ landed ((passing log).drop n)) : r = bs ∧ bs ≠ [] :=
    h.of_drop hmem
  rw [HitsPromised, h.landed_eq]
  have hshort : (landed ((passing log).take n)).length ≤ n :=
    Nat.le_trans (List.length_filterMap_le _ _) (List.length_take_le _ _)
  generalize landed ((passing log).take n) = hits at hhit hshort
  generalize landed ((passing log).drop n) = misses at hmissed
  constructor
  · intro hpromised
    refine Decidable.byContradiction fun hnot => ?_
    obtain ⟨hfew, hsome⟩ := not_or.1 hnot
    obtain ⟨⟨bs, r⟩, rest, rfl⟩ := List.exists_cons_of_ne_nil hsome
    have hfirst := hpromised hits.length bs r (by simp)
    rw [if_pos (Nat.not_le.1 hfew)] at hfirst
    obtain ⟨hr, hne⟩ := hmissed (.head _)
    exact damage_ne hne (hfirst.symm.trans hr)
  · intro hor k bs r hk
    rcases Nat.lt_or_ge k hits.length with hlt | hge
    · rw [List.getElem?_append_left hlt] at hk
      rw [if_pos (Nat.lt_of_lt_of_le hlt hshort)]
      exact hhit (List.mem_of_getElem? hk)
    · rw [List.getElem?_append_right hge] at hk
      have hmem := List.mem_of_getElem? hk
      rw [if_neg (Nat.not_lt.2 (Nat.le_trans (hor.resolve_right (List.ne_nil_of_mem hmem)) hge))]
      exact (hmissed hmem).1

/-- After an endpoint is told to damage `n` frames, the next `n` of its sends that get past its faults are
those whose frames are damaged, and no other is: sends that a fault stands against use up nothing. But
one that finds nobody at its destination does, and so does an empty frame. So the next `n` frames that
are delivered, but for empty ones, are the damaged ones exactly if each of these `n` sends delivers one,
or none is delivered after them. -/
theorem hitsPromised_iff {faults : Faults} (hn : faults.corruptNext = some n)
    (told : Step b (.set i faults) .quiet c) (run : Logged (Transmits i) c log d) :
    (∀ s ∈ log, s.received ≠ none → s.passed = true) ∧
    (∀ k s r, (passing log)[k]? = some s → s.received = some r →
      r = if k < n then damage s.bytes else s.bytes) ∧
    (HitsPromised n log ↔
      (∀ s ∈ (passing log).take n, s.delivered? ≠ none) ∨
        ∀ s ∈ (passing log).drop n, s.delivered? = none) := by
  have hspent := (spent_set hn told).run run
  refine ⟨hspent.passed, hspent.bytes, ?_⟩
  have hall : (∀ s ∈ (passing log).take n, s.delivered? ≠ none) ↔
      (landed ((passing log).take n)).length = min n (passing log).length := by
    simp only [landed, ← List.length_take, List.filterMap_length_eq_length,
      ← Option.isSome_iff_ne_none]
  have hfew : (landed ((passing log).take n)).length ≤ min n (passing log).length :=
    List.length_take ▸ List.length_filterMap_le ..
  rw [hspent.hits_iff, hall, landed, landed, List.filterMap_eq_nil_iff]
  -- fewer than `n` sends have none after them
  rcases Nat.lt_or_ge (passing log).length n with hlt | hge
  · have hnone : ∀ s ∈ (passing log).drop n, s.delivered? = none := by
      rw [List.drop_eq_nil_of_le (Nat.le_of_lt hlt)]
      nofun
    exact iff_of_true (.inr hnone) (.inr hnone)
  · rw [Nat.min_eq_left hge] at hfew ⊢
    exact or_congr_left ⟨Nat.le_antisymm hfew, fun h => Nat.le_of_eq h.symm⟩

/-- A frame to nobody uses up the damage that was meant for the one after it. -/
theorem damage_astray :
    let near : Address := ⟨2, 0, 0, 0, 0, 1⟩
    let far : Address := ⟨2, 0, 0, 0, 0, 2⟩
    let nobody : Address := ⟨2, 0, 0, 0, 0, 9⟩
    let b := (Bus.attach far .busCan (Bus.attach near .busCan {}).2).2
    let faults : Faults := { corruptNext := some 1 }
    let log : List Transmission := [⟨[1, 2, 3], true, none⟩, ⟨[1, 2, 3], true, some [1, 2, 3]⟩]
    ∃ c d, (c.send 0 nobody .busCan [1, 2, 3]).1 = .error (.unreachable nobody) ∧
      (d.poll 1).1.map (·.bytes) = [[1, 2, 3]] ∧ Step b (.set 0 faults) .quiet c ∧
      Logged (Transmits 0) c log d ∧ ¬ HitsPromised 1 log := by
  intro near far nobody b faults log
  let c := b.update 0 (·.set faults)
  let c₁ := (c.send 0 nobody .busCan [1, 2, 3]).2
  let d := (c₁.send 0 far .busCan [1, 2, 3]).2
  have told : Step b (.set 0 faults) .quiet c :=
    .set (e := { address := near, media := .busCan }) faults ⟨rfl, rfl⟩
  have astray : Transmits 0 c (transmissions 0 c (.send 0 nobody .busCan [1, 2, 3])
      (.failed (.unreachable nobody))) c₁ :=
    .step (.failed (e := { address := near, media := .busCan, corruptNext := 1 }) ⟨rfl, rfl⟩ rfl) rfl
  have came : Transmits 0 c₁ (transmissions 0 c₁ (.send 0 far .busCan [1, 2, 3])
      (.arrived 1 ⟨.address near, .busCan, [1, 2, 3], true⟩)) d :=
    .step (.arrived (e := { address := near, media := .busCan, traffic := Traffic.sendFailed {} })
      ⟨rfl, rfl⟩ rfl rfl) rfl
  have run : Logged (Transmits 0) c log d := .snoc (.one astray) came
  refine ⟨c, d, rfl, rfl, told, run, fun hits => ?_⟩
  rcases (hitsPromised_iff rfl told run).2.2.1 hits with h | h
  · exact h _ (.head _) rfl
  · cases h _ (.head _)

end Bus

end Multilink
