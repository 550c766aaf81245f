/-! # Actions

An action works on a state and ends in a value or in an error; whichever it is, what it did to the
state stays.

* `Action.mapError` changes the kind of the errors;
* `Action.within` lets an action on a part work on the whole, which it leaves alone otherwise;
* `Action.run_bind` and the other `run` lemmas say what an action does to a given state.
-/

namespace NodeDeploy

/-- An action on a state: it ends in a value or in an error, and in a new state. -/
abbrev Action (σ ε α : Type) := ExceptT ε (StateM σ) α

namespace Action

variable {σ τ ε φ α β : Type}

def mapError (f : ε → φ) (a : Action σ ε α) : Action σ φ α := fun s =>
  match a s with
  | (.ok x, t) => (.ok x, t)
  | (.error e, t) => (.error (f e), t)

/-- The outcome of an action, be it an error, as a value. -/
def attempt (a : Action σ ε α) : Action σ φ (Except ε α) := fun s =>
  match a s with
  | (r, t) => (.ok r, t)

def ofExcept (r : Except ε α) : Action σ ε α := fun s => (r, s)

def view (f : σ → α) : Action σ ε α := fun s => (.ok (f s), s)

def update (f : σ → σ) : Action σ ε Unit := fun s => (.ok (), f s)

/-- An action on a part of a state as an action on the whole. -/
def within (get : σ → τ) (set : τ → σ → σ) (a : Action τ ε α) : Action σ ε α := fun s =>
  match a (get s) with
  | (r, t) => (r, set t s)

/-! ## Running actions -/

@[simp] theorem run_pure (x : α) (s : σ) : (pure x : Action σ ε α) s = (.ok x, s) := rfl

@[simp] theorem run_throw (e : ε) (s : σ) : (throw e : Action σ ε α) s = (.error e, s) := rfl

/-- **An action goes on only from a value.** -/
theorem run_bind (a : Action σ ε α) (f : α → Action σ ε β) (s : σ) :
    (a >>= f) s = match a s with
      | (.ok x, t) => f x t
      | (.error e, t) => (.error e, t) := by
  show ExceptT.bindCont f (a s).1 (a s).2 = _
  rcases a s with ⟨_ | _, t⟩ <;> rfl

theorem run_bind_ok {a : Action σ ε α} {s t : σ} {x : α} (h : a s = (.ok x, t))
    (f : α → Action σ ε β) : (a >>= f) s = f x t := by
  rw [run_bind, h]

theorem run_bind_error {a : Action σ ε α} {s t : σ} {e : ε} (h : a s = (.error e, t))
    (f : α → Action σ ε β) : (a >>= f) s = (.error e, t) := by
  rw [run_bind, h]

theorem run_mapError (f : ε → φ) (a : Action σ ε α) (s : σ) :
    mapError f a s = ((a s).1.mapError f, (a s).2) := by
  simp only [mapError]
  rcases a s with ⟨_ | _, t⟩ <;> rfl

@[simp] theorem run_attempt (a : Action σ ε α) (s : σ) :
    (attempt a : Action σ φ (Except ε α)) s = (.ok (a s).1, (a s).2) := rfl

@[simp] theorem run_ofExcept (r : Except ε α) (s : σ) : ofExcept r s = (r, s) := rfl

@[simp] theorem run_view (f : σ → α) (s : σ) : (view f : Action σ ε α) s = (.ok (f s), s) := rfl

@[simp] theorem run_update (f : σ → σ) (s : σ) : (update f : Action σ ε Unit) s = (.ok (), f s) :=
  rfl

@[simp] theorem run_within (get : σ → τ) (set : τ → σ → σ) (a : Action τ ε α) (s : σ) :
    within get set a s = ((a (get s)).1, set (a (get s)).2 s) := rfl

end Action

end NodeDeploy
