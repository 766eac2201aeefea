import Multilink.Error
/-!
# Steps that may fail

`Act σ α` is a step on a state `σ`. It ends in a result or in an error, and in both cases it leaves
a state behind: what was counted, sent or learned before the error stays.
-/

namespace Multilink

/-- A step on a state, which ends in a result or an error. -/
def Act (σ α : Type) : Type :=
  σ → Except Error α × σ

namespace Act

variable {σ τ α β : Type}

/-- The outcome of a step on a state, and the state it leaves. -/
def run (x : Act σ α) (s : σ) : Except Error α × σ :=
  x s

instance : Monad (Act σ) where
  pure a := fun s => (.ok a, s)
  bind x f := fun s =>
    match x s with
    | (.ok a, t) => f a t
    | (.error e, t) => (.error e, t)

/-- Ends in an error and leaves the state as it is. -/
def fail (e : Error) : Act σ α :=
  fun s => (.error e, s)

/-- The state. -/
def get : Act σ σ :=
  fun s => (.ok s, s)

/-- Changes the state. -/
def modify (f : σ → σ) : Act σ Unit :=
  fun s => (.ok (), f s)

/-- Takes a step and hands its outcome on, whether a result or an error. -/
def attempt (x : Act σ α) : Act σ (Except Error α) :=
  fun s => (.ok (x s).1, (x s).2)

/-- Ends in an outcome that is known already. -/
def ofExcept (r : Except Error α) : Act σ α :=
  fun s => (r, s)

/-- A step on one part of the state. -/
def onPart (part : σ → τ) (put : σ → τ → σ) (x : Act τ α) : Act σ α :=
  fun s => ((x (part s)).1, put s (x (part s)).2)

@[simp] theorem run_pure (a : α) (s : σ) : run (pure a) s = (.ok a, s) := rfl

@[simp] theorem run_fail (e : Error) (s : σ) : run (fail (α := α) e) s = (.error e, s) := rfl

@[simp] theorem run_get (s : σ) : run (get (σ := σ)) s = (.ok s, s) := rfl

@[simp] theorem run_modify (f : σ → σ) (s : σ) : run (modify f) s = (.ok (), f s) := rfl

@[simp] theorem run_attempt (x : Act σ α) (s : σ) :
    run (attempt x) s = (.ok (run x s).1, (run x s).2) := rfl

@[simp] theorem run_ofExcept (r : Except Error α) (s : σ) : run (ofExcept r) s = (r, s) := rfl

@[simp] theorem run_onPart (part : σ → τ) (put : σ → τ → σ) (x : Act τ α) (s : σ) :
    run (onPart part put x) s = ((run x (part s)).1, put s (run x (part s)).2) := rfl

theorem run_bind (x : Act σ α) (f : α → Act σ β) (s : σ) :
    run (x >>= f) s =
      match run x s with
      | (.ok a, t) => run (f a) t
      | (.error e, t) => (.error e, t) := rfl

end Act

end Multilink
