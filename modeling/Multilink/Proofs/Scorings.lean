import Multilink.Proofs.Lookups
import Multilink.Proofs.Outcomes
import Multilink.Proofs.Picking
/-!
# Outcomes on their way through the store

A call on the store notes an outcome, scores a medium, or does neither, for one link at a time but
for a selection, which scores all media that it can choose from and each of them once.
`PeerStore.linkEvent?` is what a call was to one link. As long as the peer has the medium, its
statistics account for exactly these events, whatever else is called (`PeerStore.outcomes_settled`).
-/

namespace Multilink

open LinkStats

/-! ## What a call changes of a peer -/

namespace Peer

variable {p : Peer} {m n : Media} {profiles : Profiles} {now : Micros} {length : Nat}
variable {s : LinkStats Score} {log : List LinkEvent}

theorem stats_score?_of_ne (h : m ≠ n) :
    (p.score? profiles now length n).2.stats.get m = p.stats.get m := by
  unfold score?
  split
  · rfl
  · exact (PerMedia.get_set _ _ _ _).trans (if_neg h)

theorem stats_score?_self (p : Peer) (m : Media) :
    (p.score? profiles now length m).2.stats.get m =
      (p.stats.get m).map fun s => (s.score (profiles.get m) length now).2 := by
  unfold score?
  cases hs : p.stats.get m with
  | none => exact hs
  | some s => exact (PerMedia.get_set _ _ _ _).trans (if_pos rfl)

/-- A selection scores each of the media once. -/
theorem stats_selectFrom {ms : List Media} (hms : ms.Nodup) (best : Option (Media × Score)) (p : Peer)
    (m : Media) : (selectFrom profiles now length ms best p).2.stats.get m =
      (p.stats.get m).map fun s => if m ∈ ms then (s.score (profiles.get m) length now).2 else s := by
  induction ms generalizing best p with
  | nil => simp [selectFrom]
  | cons n rest ih =>
    obtain ⟨hn, hrest⟩ := List.nodup_cons.1 hms
    obtain ⟨best', hcons⟩ := exists_selectFrom_cons profiles now length n rest best p
    rw [hcons, ih hrest]
    by_cases hmn : m = n
    · subst hmn
      simp [stats_score?_self, hn, Function.comp_def]
    · simp only [stats_score?_of_ne hmn, List.mem_cons, hmn, false_or]

/-- The statistics on a medium account for these events. -/
def AccountsFor (p : Peer) (m : Media) (log : List LinkEvent) : Prop :=
  ∃ s, p.stats.get m = some s ∧ s.Accounts log

theorem AccountsFor.updateStats {es : List LinkEvent} {f : LinkStats Score → LinkStats Score}
    (h : p.AccountsFor m log) (hf : ∀ s : LinkStats Score, s.Accounts log → (f s).Accounts (log ++ es)) :
    (p.updateStats n f).AccountsFor m (log ++ if n = m then es else []) := by
  obtain ⟨s, hs, hacc⟩ := h
  by_cases hnm : n = m
  · subst hnm
    rw [if_pos rfl]
    exact ⟨f s, by rw [Peer.updateStats, PerMedia.get_set, if_pos rfl, hs]; rfl, hf s hacc⟩
  · rw [if_neg hnm, List.append_nil]
    exact ⟨s, by rw [Peer.updateStats, PerMedia.get_set, if_neg fun h => hnm h.symm, hs], hacc⟩

theorem AccountsFor.setMedia {media : MediaSet} (h : p.AccountsFor m log)
    (stays : media.contains m = true) : (p.setMedia media).AccountsFor m log := by
  obtain ⟨s, hs, hacc⟩ := h
  refine ⟨s, ?_, hacc⟩
  rw [Peer.setMedia, PerMedia.get_ofFn, if_pos stays, hs]
  rfl

theorem AccountsFor.score? (h : p.AccountsFor m log) (n : Media) :
    (p.score? profiles now length n).2.AccountsFor m (log ++ if n = m then [.scored] else []) := by
  obtain ⟨s, hs, hacc⟩ := h
  by_cases hnm : n = m
  · subst hnm
    rw [if_pos rfl]
    exact ⟨_, by rw [stats_score?_self, hs]; rfl, hacc.score _ _ _⟩
  · rw [if_neg hnm, List.append_nil]
    exact ⟨s, (stats_score?_of_ne fun h => hnm h.symm).trans hs, hacc⟩

theorem AccountsFor.select? (h : p.AccountsFor m log) (hp : p.Measured) (usable : MediaSet) :
    (p.select? profiles now length usable).2.AccountsFor m
      (log ++ if usable.contains m then [.scored] else []) := by
  obtain ⟨s, hs, hacc⟩ := h
  have hm : p.media.contains m = true := by rw [← hp m, hs, Option.isSome_some]
  have hstats : (p.select? profiles now length usable).2.stats.get m = _ :=
    stats_selectFrom (MediaSet.nodup_toList _) none p m
  simp only [hs, MediaSet.mem_toList, MediaSet.contains_inter, hm, Bool.true_and] at hstats
  refine ⟨_, hstats, ?_⟩
  split
  · exact hacc.score _ _ _
  · rw [List.append_nil]
    exact hacc

end Peer

/-! ## Calls -/

namespace PeerStore

variable {s t : PeerStore} {h k : Handle} {m : Media} {p q : Peer} {log : List LinkEvent}
variable {a : Address} {capacity : Nat} {given taken : List Handle}

/-- What a change of a peer is to its link on a medium. -/
def Change.event? (m : Media) : Change → Option LinkEvent
  | .recordSend n ok => if n = m then some (.outcome (.sent ok)) else none
  | .recordReceive n ok => if n = m then some (.outcome (.received ok)) else none
  | .score _ _ n _ => if n = m then some .scored else none
  | .select _ _ _ usable => if usable.contains m then some .scored else none
  | _ => none

/-- What a call was to the link of a peer on a medium. -/
def linkEvent? (h : Handle) (m : Media) : Call × Except Error Answer → Option LinkEvent
  | (⟨.change k c, _⟩, .ok _) => if k = h then c.event? m else none
  | _ => none

theorem accountsFor_introduce {name : Option String} {media : MediaSet} {version : Version}
    (hp : p.AccountsFor m log) (stays : (introduce name media version p).media.contains m = true) :
    (introduce name media version p).AccountsFor m log := by
  unfold introduce at *
  cases hnone : media.isEmpty with
  | true => exact hp
  | false =>
    rw [hnone] at stays
    exact Peer.AccountsFor.setMedia (p := { p with name := name.getD p.name }) hp stays

theorem Change.apply_accountsFor (c : Change) (hp : p.AccountsFor m log) (hmeasured : p.Measured)
    (stays : (c.apply s h p).media.contains m = true) :
    (c.apply s h p).AccountsFor m (log ++ (c.event? m).toList) := by
  have hquiet : p.AccountsFor m (log ++ []) := by rwa [List.append_nil]
  cases c with
  | updateIdentity name media version =>
    rw [Change.event?, Option.toList_none, List.append_nil]
    · exact accountsFor_introduce hp stays
    all_goals nofun
  | recordSend n ok =>
    rw [Change.event?, apply_ite Option.toList]
    exact hp.updateStats fun s hs => hs.note (.sent ok)
  | recordReceive n ok =>
    rw [Change.event?, apply_ite Option.toList]
    exact hp.updateStats fun s hs => hs.note (.received ok)
  | recordSpeed n speed =>
    have hspeed : (p.updateStats n fun s => { s with measuredSpeed := speed }).AccountsFor m
        (log ++ if n = m then [] else []) := hp.updateStats fun s hs => by
      rw [List.append_nil]
      exact hs.measured speed
    rwa [ite_self] at hspeed
  | setAvailability a => exact hquiet
  | setMedia media =>
    rw [Change.event?, Option.toList_none, List.append_nil]
    · exact hp.setMedia stays
    all_goals nofun
  | setSecure => exact hquiet
  | markProvisioned => exact hquiet
  | score profiles now n length =>
    rw [Change.event?, apply_ite Option.toList]
    exact hp.score? n
  | select profiles now length usable =>
    rw [Change.event?, apply_ite Option.toList]
    exact hp.select? hmeasured usable

/-- A call that changes no peer leaves those that were there, and a new one under the next handle. -/
theorem Op.mem_peers {op : Op} {r : Except Error Answer} (hrun : op.act.run s = (r, t))
    (hop : ∀ k c, op ≠ .change k c) (hq : q ∈ t.peers) :
    q ∈ s.peers ∨ q.handle = ⟨s.nextHandle⟩ := by
  cases op with
  | add name address media =>
    rw [Op.act, Act.run_map] at hrun
    obtain ⟨e, hadd, -⟩ | ⟨new, hnew, -, hadd⟩ := add_cases name address media s
    · rw [hadd] at hrun
      cases hrun
      exact .inl hq
    · rw [hadd] at hrun
      cases hrun
      have hperm := peers_place (s := s) (p := new)
        (t := { s with slots := place new s.slots, nextHandle := s.nextHandle + 1 }) rfl
      obtain rfl | hold := List.mem_cons.1 (hperm.subset hq)
      · exact .inr hnew.handle
      · exact .inl hold
  | remove k =>
    rw [Op.act, Act.run_map] at hrun
    obtain ⟨-, hremove⟩ | ⟨-, -, hremove⟩ | ⟨-, _, slots, -, hat, hremove⟩ := run_remove k s
    · rw [hremove] at hrun
      cases hrun
      exact .inl hq
    · rw [hremove] at hrun
      cases hrun
      exact .inl hq
    · rw [hremove] at hrun
      cases hrun
      obtain ⟨_, rest, -, hbefore, hafter⟩ := peers_changedAt (t := { s with slots }) hat rfl
      exact .inl (hbefore.symm.subset (.tail _ (hafter.subset hq)))
  | change k c => exact absurd rfl (hop k c)
  | snapshot k =>
    rw [Op.act, Act.run_map, run_snapshot] at hrun
    cases hrun
    exact .inl hq
  | find query =>
    rw [Op.act, Act.run_map, run_query] at hrun
    cases hrun
    exact .inl hq

/-- A call as the link of a peer sees it. -/
theorem Op.accountsFor {op : Op} {contended : Bool} {r : Except Error Answer}
    (hi : Inv a capacity given taken s) (hrun : op.act.run s = (r, t)) (hp : p ∈ s.peers)
    (hph : p.handle = h) (hacc : p.AccountsFor m log) (hq : q ∈ t.peers) (hqh : q.handle = h)
    (stays : q.media.contains m = true) :
    q.AccountsFor m (log ++ (linkEvent? h m (⟨op, contended⟩, r)).toList) := by
  have hsame (he : linkEvent? h m (⟨op, contended⟩, r) = none) (hmem : q ∈ s.peers) :
      q.AccountsFor m (log ++ (linkEvent? h m (⟨op, contended⟩, r)).toList) := by
    rw [he, Option.toList_none, List.append_nil,
      ← hi.wellFormed.eq_of_handle hp hmem (hph.trans hqh.symm)]
    exact hacc
  by_cases hop : ∃ k c, op = .change k c
  · obtain ⟨k, c, rfl⟩ := hop
    obtain ⟨-, hchange⟩ | ⟨-, -, hchange⟩ | ⟨-, -, answer, slots, -, hat, hchange⟩ := run_change c k s
    · cases (hrun : (c.act k).run s = _).symm.trans hchange
      exact hsame rfl hq
    · cases (hrun : (c.act k).run s = _).symm.trans hchange
      exact hsame rfl hq
    · cases (hrun : (c.act k).run s = _).symm.trans hchange
      obtain ⟨p', rest, hp'k, hbefore, hafter⟩ := peers_changedAt (t := { s with slots }) hat rfl
      have happlied : (c.apply s k p').handle = k :=
        (congrArg Identity.handle (c.allows_apply s hp'k).identity).trans hp'k
      have hapart := (hi.wellFormed.perm hbefore.symm).apart
      by_cases hkh : k = h
      · subst hkh
        have hpp' := hi.wellFormed.eq_of_handle hp (hbefore.symm.subset (.head _))
          (hph.trans hp'k.symm)
        subst hpp'
        rw [linkEvent?, if_pos rfl]
        obtain rfl | hrest := List.mem_cons.1 (hafter.subset hq)
        · exact c.apply_accountsFor hacc (hi.wellFormed.measured p hp) stays
        · exact absurd (hph.trans hqh.symm) (List.pairwise_cons.1 hapart |>.1 q hrest).1
      · obtain rfl | hrest := List.mem_cons.1 (hafter.subset hq)
        · exact absurd (happlied.symm.trans hqh) hkh
        · exact hsame (if_neg hkh) (hbefore.symm.subset (.tail _ hrest))
  · have hnone : linkEvent? h m (⟨op, contended⟩, r) = none := by
      cases op with
      | change k c => exact absurd ⟨k, c, rfl⟩ hop
      | _ => rfl
    obtain hold | hnew := Op.mem_peers hrun (fun k c he => hop ⟨k, c, he⟩) hq
    · exact hsame hnone hold
    · -- the next handle is above that of every peer
      have hbelow := hi.below _ (hi.live p hp)
      rw [hph, ← hqh, hnew] at hbelow
      exact absurd hbelow (Nat.lt_irrefl _)

/-! ## Rows of calls -/

/-- Calls in a row, in all of which the peer with this handle lives and keeps the medium. -/
inductive Stays (h : Handle) (m : Media) (s : PeerStore) :
    List (Call × Except Error Answer) → PeerStore → Prop
  | nil : Stays h m s [] s
  | snoc {tr : List (Call × Except Error Answer)} {t u : PeerStore} {c : Call}
      {r : Except Error Answer} {p : Peer} :
      Stays h m s tr t → Step t c r u → u.ofHandle? h = some p → p.media.contains m = true →
      Stays h m s (tr ++ [(c, r)]) u

/-- The events of a link in a row of calls. -/
def linkEvents (h : Handle) (m : Media) (tr : List (Call × Except Error Answer)) : List LinkEvent :=
  tr.filterMap (linkEvent? h m)

theorem Stays.accountsFor {tr : List (Call × Except Error Answer)} (run : Stays h m s tr t)
    (hi : ∃ given taken, Inv a capacity given taken s)
    (hp : ∃ p, s.ofHandle? h = some p ∧ p.AccountsFor m []) :
    (∃ given taken, Inv a capacity given taken t) ∧
      ∃ p, t.ofHandle? h = some p ∧ p.AccountsFor m (linkEvents h m tr) := by
  induction run with
  | nil => exact ⟨hi, hp⟩
  | @snoc tr t u c r q _ hstep hq stays ih =>
    obtain ⟨⟨given, taken, hi⟩, p, hp, hacc⟩ := ih
    obtain ⟨op, contended⟩ := c
    refine ⟨⟨_, _, (hi.held _).effect (effect_of_step hstep)⟩, q, hq, ?_⟩
    rw [linkEvents, filterMap_snoc]
    exact Op.accountsFor (hi.held _) hstep (List.mem_of_find?_eq_some hp)
      (by simpa using List.find?_some hp) hacc (List.mem_of_find?_eq_some hq)
      (by simpa using List.find?_some hq) stays

/-- From when a peer has a medium on, and for as long as it has it, whatever is called on the store:
every outcome that is noted belongs to one interval between scorings. The counts are those of the
interval that is open. The history has one rate for each of the last ten intervals before, found by how
long ago it was recorded, and their average is over exactly these. -/
theorem outcomes_settled {before tr : List (Call × Except Error Answer)}
    (made : Trace Step (new a capacity) before s)
    (fresh : ∃ p, s.ofHandle? h = some p ∧ p.stats.get m = some (Peer.freshStats m))
    (run : Stays h m s tr t) :
    let log := linkEvents h m tr
    let n := scorings log
    (List.range (n + 1)).flatMap (between · log) = log.filterMap LinkEvent.outcome? ∧
    ∃ p st, t.ofHandle? h = some p ∧ p.stats.get m = some st ∧
      (∀ x, (st.tally x).toNat = min ((between n log).count x) Tally.top.toNat) ∧
      st.history.size = min n 10 ∧
      (∀ k, 1 ≤ k → k ≤ min n 10 →
        st.history.recent? (k - 1) = some (failureRate (between (n - k) log))) ∧
      ∃ kept, kept.IsRotated ((List.range' (n - 10) (min n 10)).map fun i =>
        failureRate (between i log)) ∧ st.history.average = History.mean kept := by
  intro log n
  refine ⟨flatMap_between log, ?_⟩
  obtain ⟨p, hp, hstats⟩ := fresh
  have hacc : p.AccountsFor m [] := ⟨_, hstats, accounts_fresh _⟩
  obtain ⟨-, q, hq, st, hst, hcounts, hhistory⟩ :=
    run.accountsFor ⟨_, _, Inv.trace made⟩ ⟨p, hp, hacc⟩
  have hlength : (rates (R := Score) log).length = n := length_rates log
  refine ⟨q, st, hq, hst, hcounts, ?_, fun k hk hkn => ?_, ?_⟩
  · rw [hhistory.size, hlength]
    rfl
  · have hrecent : k - 1 < (rates (R := Score) log).length := by omega
    have hinterval : n - k < scorings log := Nat.sub_lt_of_pos_le hk (by omega)
    rw [hhistory.recent? (by unfold History.capacity; omega), List.getElem?_reverse hrecent, hlength,
      show n - 1 - (k - 1) = n - k by omega, rates_eq, List.getElem?_map, List.getElem?_range hinterval]
    rfl
  · obtain ⟨kept, hkept, haverage⟩ := hhistory.average
    refine ⟨kept, ?_, haverage⟩
    have hretained : History.retained (rates (R := Score) log) =
        (List.range' (n - 10) (min n 10)).map fun i => failureRate (between i log) := by
      rw [History.retained, hlength, rates_eq, ← List.map_drop, List.range_eq_range', List.drop_range',
        Nat.mul_one, Nat.zero_add, show n - (n - History.capacity) = min n 10 by
          unfold History.capacity; omega]
      rfl
    rw [← hretained]
    exact hkept

/-- A link is scored after two outcomes, scored again by a selection, and has another outcome. -/
theorem settled_twice :
    let before :=
      [(⟨.add "far" ⟨2, 0, 0, 0, 0, 2⟩ (.singleton .busCan), false⟩, .ok (.added ⟨1⟩))]
    let calls (x y : Answer) : List (Call × Except Error Answer) :=
      [(⟨.change ⟨1⟩ (.recordSend .busCan false), false⟩, .ok .changed),
        (⟨.change ⟨1⟩ (.recordSend .busCan true), false⟩, .ok .changed),
        (⟨.change ⟨1⟩ (.score .builtIn 0 .busCan 8), false⟩, .ok x),
        (⟨.change ⟨1⟩ (.recordSend .busCan true), true⟩, .error (.lockTimeout "peer store")),
        (⟨.change ⟨1⟩ (.select .builtIn 0 8 (.singleton .busCan)), false⟩, .ok y),
        (⟨.change ⟨1⟩ (.recordReceive .busCan false), false⟩, .ok .changed)]
    ∃ s x y t p st, Trace Step (new ⟨2, 0, 0, 0, 0, 1⟩ 2) before s ∧ Stays ⟨1⟩ .busCan s (calls x y) t ∧
      t.ofHandle? ⟨1⟩ = some p ∧ p.stats.get .busCan = some st ∧
      (st.tally (.received false)).toNat = 1 ∧ (st.tally (.sent true)).toNat = 0 ∧
      st.history.size = 2 ∧ st.history.recent? 0 = some 0 ∧ st.history.recent? 1 = some 0.5 := by
  intro before calls
  have hrun : ∃ s x y t, Trace Step (new ⟨2, 0, 0, 0, 0, 1⟩ 2) before s ∧
      (∃ p, s.ofHandle? ⟨1⟩ = some p ∧ p.stats.get .busCan = some (Peer.freshStats .busCan)) ∧
      Stays ⟨1⟩ .busCan s (calls x y) t :=
    ⟨_, _, _, _, .snoc .nil rfl, ⟨_, rfl, rfl⟩,
      .snoc (.snoc (.snoc (.snoc (.snoc (.snoc .nil rfl rfl rfl) rfl rfl rfl) rfl rfl rfl)
        rfl rfl rfl) rfl rfl rfl) rfl rfl rfl⟩
  obtain ⟨s, x, y, t, hmade, hfresh, hrun⟩ := hrun
  obtain ⟨-, p, st, hp, hst, hcounts, hsize, hrecent, -⟩ := outcomes_settled hmade hfresh hrun
  refine ⟨s, x, y, t, p, st, hmade, hrun, hp, hst, hcounts (.received false), hcounts (.sent true),
    hsize, (hrecent 1 (by decide) (Nat.le_of_ble_eq_true rfl)).trans ?_,
    (hrecent 2 (by decide) (Nat.le_of_ble_eq_true rfl)).trans ?_⟩
  · show some (failureRate []) = _
    decide +kernel
  · show some (failureRate [.sent false, .sent true]) = _
    decide +kernel

end PeerStore

end Multilink
