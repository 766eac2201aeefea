import Multilink.Act
/-!
# What steps leave alone

`Act.Keeps view x` says that a step leaves one view of the state as it is, whatever its outcome.
Steps made of such steps are such steps, so that it is enough to look at the smallest ones.
`Act.FailsWith P x` says that every error a step ends in is one of `P`.

`Trace` is about calls in a row: what they answer, and the state that they lead to. `Logged` is the
same for steps that log what happens in them, which may be nothing or several things.
-/

namespace Multilink

/-- Calls in a row with their answers, and the state that they lead to from `start`. -/
inductive Trace {σ κ ρ : Type} (step : σ → κ → ρ → σ → Prop) (start : σ) :
    List (κ × ρ) → σ → Prop
  | nil : Trace step start [] start
  | snoc {tr : List (κ × ρ)} {s t : σ} {c : κ} {r : ρ} :
      Trace step start tr s → step s c r t → Trace step start (tr ++ [(c, r)]) t

namespace Trace

variable {σ κ ρ : Type} {step : σ → κ → ρ → σ → Prop} {s u : σ} {tr tr' : List (κ × ρ)}

theorem trans {t : σ} (h : Trace step s tr t) (h' : Trace step t tr' u) :
    Trace step s (tr ++ tr') u := by
  induction h' with
  | nil => rwa [List.append_nil]
  | snoc _ hstep ih =>
    rw [← List.append_assoc]
    exact ih.snoc hstep

/-- A row of calls that begins with others comes by the state that these lead to. -/
theorem of_append (h : Trace step s (tr ++ tr') u) : ∃ t, Trace step s tr t ∧ Trace step t tr' u := by
  generalize hl : tr ++ tr' = l at h
  induction h generalizing tr' with
  | nil =>
    obtain ⟨rfl, rfl⟩ := List.append_eq_nil_iff.1 hl
    exact ⟨s, .nil, .nil⟩
  | @snoc l t u c r hpre hstep ih =>
    rcases List.eq_nil_or_concat tr' with rfl | ⟨tr', e, rfl⟩
    · rw [List.append_nil] at hl
      exact ⟨u, hl ▸ hpre.snoc hstep, .nil⟩
    · rw [List.concat_eq_append, ← List.append_assoc] at hl
      obtain ⟨hl, he⟩ := List.append_inj' hl rfl
      obtain ⟨m, hfirst, hlast⟩ := ih hl
      rw [List.concat_eq_append, (List.cons.inj he).1]
      exact ⟨m, hfirst, hlast.snoc hstep⟩

theorem of_nil (h : Trace step s [] u) : u = s := by
  generalize hl : ([] : List (κ × ρ)) = l at h
  cases h with
  | nil => rfl
  | snoc => exact absurd hl (List.append_ne_nil_of_right_ne_nil _ (List.cons_ne_nil _ _)).symm

theorem of_snoc {c : κ} {r : ρ} (h : Trace step s (tr ++ [(c, r)]) u) :
    ∃ t, Trace step s tr t ∧ step t c r u := by
  generalize hl : tr ++ [(c, r)] = l at h
  cases h with
  | nil => exact absurd hl (List.append_ne_nil_of_right_ne_nil _ (List.cons_ne_nil _ _))
  | snoc hpre hstep =>
    obtain ⟨rfl, he⟩ := List.append_inj' hl rfl
    cases (List.cons.inj he).1
    exact ⟨_, hpre, hstep⟩

theorem of_cons {c : κ} {r : ρ} (h : Trace step s ((c, r) :: tr) u) :
    ∃ t, step s c r t ∧ Trace step t tr u := by
  rw [← List.singleton_append] at h
  obtain ⟨t, hone, hrest⟩ := of_append h
  rw [← List.nil_append [(c, r)]] at hone
  obtain ⟨s', hnone, hstep⟩ := of_snoc hone
  cases of_nil hnone
  exact ⟨t, hstep, hrest⟩

end Trace

/-- A run of steps from `start`, each of which logs what happens in it. -/
inductive Logged {σ ε : Type} (step : σ → List ε → σ → Prop) (start : σ) : List ε → σ → Prop
  | nil : Logged step start [] start
  | snoc {log es : List ε} {s t : σ} :
      Logged step start log s → step s es t → Logged step start (log ++ es) t

namespace Logged

variable {σ ε : Type} {step : σ → List ε → σ → Prop} {s t u : σ} {log log' es : List ε}

theorem one (h : step s es t) : Logged step s es t :=
  Logged.nil.snoc h

theorem trans (h : Logged step s log t) (h' : Logged step t log' u) :
    Logged step s (log ++ log') u := by
  induction h' with
  | nil => rwa [List.append_nil]
  | snoc _ hstep ih =>
    rw [← List.append_assoc]
    exact ih.snoc hstep

end Logged

namespace Act

variable {σ τ α β γ : Type}

theorem run_bind_ok {x : Act σ α} {f : α → Act σ β} {s t : σ} {a : α} (h : run x s = (.ok a, t)) :
    run (x >>= f) s = run (f a) t := by
  rw [run_bind, h]

theorem run_bind_error {x : Act σ α} {f : α → Act σ β} {s t : σ} {e : Error}
    (h : run x s = (.error e, t)) : run (x >>= f) s = (.error e, t) := by
  rw [run_bind, h]

theorem run_bind_attempt {x : Act σ α} {f : Except Error α → Act σ β} {s t : σ} {r : Except Error α}
    (h : run x s = (r, t)) : run (attempt x >>= f) s = run (f r) t := by
  rw [run_bind, run_attempt, h]

theorem run_map (f : α → β) (x : Act σ α) (s : σ) :
    run (f <$> x) s = ((run x s).1.map f, (run x s).2) := by
  show run (x >>= fun a => Pure.pure (f a)) s = _
  rw [run_bind]
  rcases run x s with ⟨_ | _, t⟩ <;> rfl

/-! ## Views -/

/-- The step leaves this view of the state as it is, in a result and in an error. -/
def Keeps (view : σ → γ) (x : Act σ α) : Prop :=
  ∀ s, view (run x s).2 = view s

namespace Keeps

variable {view : σ → γ}

theorem pure (a : α) : Keeps view (Pure.pure a : Act σ α) := fun _ => rfl

theorem fail (e : Error) : Keeps view (Act.fail e : Act σ α) := fun _ => rfl

theorem get : Keeps view (Act.get (σ := σ)) := fun _ => rfl

theorem attempt {x : Act σ α} (h : Keeps view x) : Keeps view (Act.attempt x) := h

theorem bind {x : Act σ α} {f : α → Act σ β} (hx : Keeps view x) (hf : ∀ a, Keeps view (f a)) :
    Keeps view (x >>= f) := by
  intro s
  have h := hx s
  rw [run_bind]
  split
  · next a t ht =>
    rw [ht] at h
    exact (hf a t).trans h
  · next e t ht =>
    rw [ht] at h
    exact h

theorem map {x : Act σ α} (h : Keeps view x) (f : α → β) : Keeps view (f <$> x) := fun s => by
  rw [run_map]
  exact h s

/-- What depends on nothing but a view that is kept is kept too. -/
theorem comp {δ : Type} {x : Act σ α} (h : Keeps view x) (g : γ → δ) :
    Keeps (fun s => g (view s)) x := fun s => congrArg g (h s)

end Keeps

/-! ## Errors -/

/-- Every error that the step ends in is one of these. -/
def FailsWith (P : Error → Prop) (x : Act σ α) : Prop :=
  ∀ s e, (run x s).1 = .error e → P e

namespace FailsWith

variable {P Q : Error → Prop}

theorem mono {x : Act σ α} (h : FailsWith P x) (hPQ : ∀ e, P e → Q e) : FailsWith Q x :=
  fun s e he => hPQ e (h s e he)

theorem pure (a : α) : FailsWith P (Pure.pure a : Act σ α) := nofun

theorem fail {e : Error} (h : P e) : FailsWith P (Act.fail e : Act σ α) := by
  rintro s e' he
  cases he
  exact h

theorem get : FailsWith P (Act.get (σ := σ)) := nofun

theorem modify (f : σ → σ) : FailsWith P (Act.modify f) := nofun

theorem bind {x : Act σ α} {f : α → Act σ β} (hx : FailsWith P x) (hf : ∀ a, FailsWith P (f a)) :
    FailsWith P (x >>= f) := by
  intro s e he
  rw [run_bind] at he
  split at he
  · next a t _ => exact hf a t e he
  · next e' t ht =>
    cases he
    exact hx s e (congrArg Prod.fst ht)

theorem onPart {part : σ → τ} {put : σ → τ → σ} {x : Act τ α} (h : FailsWith P x) :
    FailsWith P (Act.onPart part put x) := fun s => h (part s)

end FailsWith

end Act

end Multilink
