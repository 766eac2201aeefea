import Multilink.Proofs.Attempts
/-!
# Taking over an identity

What a peer announces about itself comes from outside, and one call takes all of it over: a name that may
be taken, other media with what is known of those that stay, a version and a first step of trust.
`PeerStore.Announced` lists what becomes of the peer, and `PeerStore.updateIdentity_exact` says that this is
all that happens to the store.
-/

namespace Multilink

/-! ## Other media -/

namespace Peer

/-- What becomes of the media of a peer and of their statistics if `ms` replaces them. -/
structure Refitted (p : Peer) (ms : MediaSet) (q : Peer) : Prop where
  media : q.media = ms
  /-- A medium that stays keeps its history, its counters and its last score. -/
  stays : ∀ m, p.media.contains m = true → ms.contains m = true →
    ∃ s, p.stats.get m = some s ∧ q.stats.get m = some s
  fresh : ∀ m, p.media.contains m = false → ms.contains m = true →
    q.stats.get m = some (freshStats m)
  gone : ∀ m, ms.contains m = false → q.stats.get m = none

theorem refitted_setMedia {p : Peer} (hp : p.Measured) (ms : MediaSet) : p.Refitted ms (p.setMedia ms) where
  media := rfl
  stays m hold hnew := by
    obtain ⟨s, hs⟩ := Option.isSome_iff_exists.1 ((hp m).trans hold)
    exact ⟨s, hs, by simp [setMedia, hnew, hs]⟩
  fresh m hold hnew := by
    have hnone : p.stats.get m = none := by simpa using (hp m).trans hold
    simp [setMedia, hnew, hnone]
  gone m hnew := by simp [setMedia, hnew]

end Peer

/-! ## Another name -/

namespace PeerStore

variable {s : PeerStore} {h : Handle} {p : Peer} {a : Address} {capacity : Nat}

/-- The peer with a handle may take a name that is one and that no other peer has. -/
structure MayTake (s : PeerStore) (h : Handle) (name : String) : Prop where
  nonempty : 1 ≤ name.utf8ByteSize
  short : name.utf8ByteSize ≤ 32
  free : ∀ r ∈ s.peers, r.handle ≠ h → r.name ≠ name

theorem nameFor?_eq_some_iff {name : Option String} {n : String} :
    s.nameFor? h name = some n ↔ name = some n ∧ s.MayTake h n := by
  rw [nameFor?, Option.filter_eq_some_iff]
  refine and_congr_right fun _ => ?_
  rw [Bool.and_eq_true, Option.isNone_iff_eq_none, nameFault?_eq_none_iff]
  constructor
  · rintro ⟨⟨hnonempty, hshort⟩, hfree⟩
    exact ⟨hnonempty, hshort, by simpa using hfree⟩
  · rintro ⟨hnonempty, hshort, hfree⟩
    exact ⟨⟨hnonempty, hshort⟩, by simpa using hfree⟩

/-- Each peer may take the name that it has. -/
theorem WellFormed.mayTake_name (hw : WellFormed a capacity s.peers) (hp : p ∈ s.peers) :
    s.MayTake p.handle p.name where
  nonempty := (hw.named p hp).1
  short := (hw.named p hp).2
  free _ hr hne he := hne (congrArg Peer.handle (hw.eq_of_not_apart hr hp fun hapart => hapart.2.1 he))

/-! ## All of it at once -/

/-- What becomes of a peer by what it announces about itself. -/
structure Announced (s : PeerStore) (name : Option String) (media : MediaSet) (version : Version)
    (p q : Peer) : Prop where
  /-- It has the name that it gives exactly if it may take it. -/
  named : ∀ n, name = some n → (q.name = n ↔ s.MayTake p.handle n)
  /-- If it gives none, or one that it may not take, it is called what it was called before. -/
  unnamed : (∀ n, name = some n → ¬ s.MayTake p.handle n) → q.name = p.name
  unmoved : media.isEmpty = true → q.media = p.media ∧ q.stats = p.stats
  refitted : media.isEmpty = false → p.Refitted media q
  version : q.version = version
  trust : q.trust = if p.trust = .unknown then .knownInsecure else p.trust
  /-- All else about it is as it was. -/
  rest : q = { p with
    name := q.name, media := q.media, stats := q.stats, version := q.version, trust := q.trust }

theorem name_introduce (name : Option String) (media : MediaSet) (version : Version) (p : Peer) :
    (introduce name media version p).name = name.getD p.name := by
  unfold introduce
  cases media.isEmpty <;> rfl

theorem WellFormed.announced_introduce (hw : WellFormed a capacity s.peers) (hp : p ∈ s.peers)
    (name : Option String) (media : MediaSet) (version : Version) :
    s.Announced name media version p (introduce (s.nameFor? p.handle name) media version p) where
  named n hn := by
    rw [name_introduce]
    constructor
    · intro hname
      cases htaken : s.nameFor? p.handle name with
      | none =>
        -- the name was passed over, so it can only be the one that the peer has already
        obtain rfl : p.name = n := by simpa [htaken] using hname
        exact hw.mayTake_name hp
      | some k =>
        obtain rfl : k = n := by simpa [htaken] using hname
        exact (nameFor?_eq_some_iff.1 htaken).2
    · intro hmay
      rw [nameFor?_eq_some_iff.2 ⟨hn, hmay⟩, Option.getD_some]
  unnamed hmay := by
    have hnone : s.nameFor? p.handle name = none :=
      Option.eq_none_iff_forall_ne_some.2 fun n hn =>
        hmay n (nameFor?_eq_some_iff.1 hn).1 (nameFor?_eq_some_iff.1 hn).2
    rw [name_introduce, hnone, Option.getD_none]
  unmoved hempty := by simp [introduce, hempty]
  refitted hempty := by
    have hrefit := Peer.refitted_setMedia (hw.measured p hp) media
    simp only [introduce, hempty]
    exact ⟨hrefit.media, hrefit.stays, hrefit.fresh, hrefit.gone⟩
  version := rfl
  trust := by
    unfold introduce
    cases media.isEmpty <;> rfl
  rest := by
    unfold introduce
    cases media.isEmpty <;> rfl

theorem run_updateIdentity (name : Option String) (media : MediaSet) (version : Version) :
    (updateIdentity h name media version).run s =
      (update h (introduce (s.nameFor? h name) media version)).run s := rfl

/-- Of every peer in a store that calls lead to, what it announces is taken over in full, all else about it
stays, and no other slot of the store changes. While the store is held, nothing is taken over. -/
theorem updateIdentity_exact {tr : List (Call × Except Error Answer)}
    (h : Trace Step (new a capacity) tr s) (hp : p ∈ s.peers) (name : Option String) (media : MediaSet)
    (version : Version) :
    ∃ before after q, s.slots = before ++ some p :: after ∧ s.Announced name media version p q ∧
      Step s ⟨.change p.handle (.updateIdentity name media version), false⟩ (.ok .changed)
        { s with slots := before ++ some q :: after, held := false } ∧
      Step s ⟨.change p.handle (.updateIdentity name media version), true⟩
        (.error (.lockTimeout "peer store")) { s with held := true } := by
  have hw := (Inv.trace h).wellFormed
  obtain ⟨before, after, hseat⟩ := WellFormed.exists_seat (s := { s with held := false }) hw rfl hp
  refine ⟨before, after, _, hseat.slots, hw.announced_introduce hp name media version, ?_, ?_⟩
  · rw [Step, Op.act, Change.act, Act.run_map, run_updateIdentity, hseat.update]
    rfl
  · rw [Step, Op.act, Change.act, Act.run_map, run_updateIdentity, update, run_withPeer_held rfl]
    rfl

/-- A peer announces a name that another one has, one medium that it had before and one that it had not. It
keeps its name and what was counted on the first of these. -/
theorem announced_taken_name :
    let a : Address := ⟨2, 0, 0, 0, 0, 1⟩
    let b : Address := ⟨2, 0, 0, 0, 0, 10⟩
    let c : Address := ⟨2, 0, 0, 0, 0, 11⟩
    let announced : Call :=
      ⟨.change ⟨1⟩ (.updateIdentity (some "beta") (.ofList [.busCan, .busTtl]) ⟨1, 2⟩), false⟩
    let calls : List (Call × Except Error Answer) :=
      [(⟨.add "alpha" b (.ofList [.radioShort, .busCan]), false⟩, .ok (.added ⟨1⟩)),
        (⟨.add "beta" c .empty, false⟩, .ok (.added ⟨2⟩)),
        (⟨.change ⟨1⟩ (.recordSend .busCan true), false⟩, .ok .changed)]
    ∃ s t p q, Trace Step (new a 2) calls s ∧ p ∈ s.peers ∧ Step s announced (.ok .changed) t ∧
      s.Announced (some "beta") (.ofList [.busCan, .busTtl]) ⟨1, 2⟩ p q ∧ t.peers = q :: s.peers.tail ∧
      q.name = "alpha" ∧ q.stats.get .busCan = some { Peer.freshStats .busCan with sendOk := 1 } ∧
      q.stats.get .busTtl = some (Peer.freshStats .busTtl) ∧ q.stats.get .radioShort = none := by
  intro a b c announced calls
  let alpha := Peer.make ⟨1⟩ "alpha" b (.ofList [.radioShort, .busCan]) a
  let beta := Peer.make ⟨2⟩ "beta" c .empty a
  let p := alpha.updateStats .busCan (·.recordSend true)
  let s : PeerStore := { new a 2 with slots := [some p, some beta], nextHandle := 3 }
  have hone : Step (new a 2) ⟨.add "alpha" b (.ofList [.radioShort, .busCan]), false⟩
      (.ok (.added ⟨1⟩)) { new a 2 with slots := [some alpha], nextHandle := 2 } := rfl
  have htwo : Step { new a 2 with slots := [some alpha], nextHandle := 2 } ⟨.add "beta" c .empty, false⟩
      (.ok (.added ⟨2⟩)) { new a 2 with slots := [some alpha, some beta], nextHandle := 3 } := rfl
  have hthree : Step { new a 2 with slots := [some alpha, some beta], nextHandle := 3 }
      ⟨.change ⟨1⟩ (.recordSend .busCan true), false⟩ (.ok .changed) s := rfl
  have htrace : Trace Step (new a 2) calls s := .snoc (.snoc (.snoc .nil hone) htwo) hthree
  obtain ⟨before, after, q, hslots, hq, hstep, -⟩ := updateIdentity_exact htrace (p := p) (.head _)
    (some "beta") (.ofList [.busCan, .busTtl]) ⟨1, 2⟩
  obtain ⟨rfl, rfl⟩ : before = [] ∧ after = [some beta] := by
    cases before with
    | nil => exact ⟨rfl, (List.cons.inj hslots).2.symm⟩
    | cons _ rest =>
      have hmem : some p ∈ [some beta] := by simp [(List.cons.inj hslots).2]
      exact absurd (congrArg (Option.map Peer.handle) (List.mem_singleton.1 hmem)) (by decide)
  have hname : q.name = "alpha" := by
    refine hq.unnamed fun n hn hmay => ?_
    cases hn
    exact hmay.free beta (.tail _ (.head _)) (by decide) rfl
  have hrefit := hq.refitted (by decide)
  obtain ⟨counted, hold, hnew⟩ := hrefit.stays .busCan (by decide) (by decide)
  cases hold
  exact ⟨s, _, p, q, htrace, .head _, hstep, hq, rfl, hname, hnew,
    hrefit.fresh .busTtl (by decide) (by decide), hrefit.gone .radioShort (by decide)⟩

end PeerStore

end Multilink
