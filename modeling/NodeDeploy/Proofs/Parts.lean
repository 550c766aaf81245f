import NodeDeploy.Proofs.World

/-! # Parts of a state

An action on a part of a state is also one on the whole, which it leaves alone otherwise. Whether
actions are put together before or after that makes no difference, so that what is built from calls
that work on a part is known once it is known for the part.

* `IsPart`: a part of a state, by how it is read and how it is replaced.
* `IsPart.within_bind` and its siblings: one rule for each way to build an action.
* `World.isPart_memory` and `World.isPart_device`: the parts of a world.
-/

namespace NodeDeploy

/-- A part of a state, which is read by `get` and replaced by `set`. -/
structure IsPart {σ τ : Type} (get : τ → σ) (set : σ → τ → τ) : Prop where
  get_set : ∀ x s, get (set s x) = s
  set_get : ∀ x, set (get x) x = x
  set_set : ∀ x s t, set t (set s x) = set t x

namespace IsPart

variable {σ τ ε φ α β : Type} {get : τ → σ} {set : σ → τ → τ}

theorem within_ofExcept (h : IsPart get set) (r : Except ε α) :
    (Action.ofExcept r : Action σ ε α).within get set = .ofExcept r := by
  funext x
  show (r, set (get x) x) = (r, x)
  rw [h.set_get]

theorem within_pure (h : IsPart get set) (v : α) :
    (pure v : Action σ ε α).within get set = pure v :=
  h.within_ofExcept (.ok v)

theorem within_throw (h : IsPart get set) (e : ε) :
    (throw e : Action σ ε α).within get set = throw e :=
  h.within_ofExcept (.error e)

/-- **An action and what follows it work on the same part.** -/
theorem within_bind (h : IsPart get set) (a : Action σ ε α) (f : α → Action σ ε β) :
    (a >>= f).within get set = a.within get set >>= fun v => (f v).within get set := by
  funext x
  rw [Action.run_within, Action.run_bind, Action.run_bind, Action.run_within]
  rcases a (get x) with ⟨_ | v, s⟩
  · rfl
  · dsimp only
    rw [Action.run_within, h.get_set, h.set_set]

end IsPart

theorem Action.within_mapError {σ τ ε φ α : Type} (get : τ → σ) (set : σ → τ → τ) (f : ε → φ)
    (a : Action σ ε α) : (a.mapError f).within get set = (a.within get set).mapError f := by
  funext x
  rw [Action.run_within, Action.run_mapError, Action.run_mapError, Action.run_within]

namespace World

variable {δ : Type}

theorem isPart_memory : IsPart (memory (δ := δ)) fun m w => { w with memory := m } :=
  ⟨fun _ _ => rfl, fun _ => rfl, fun _ _ _ => rfl⟩

theorem isPart_device : IsPart (device (δ := δ)) fun d w => { w with device := d } :=
  ⟨fun _ _ => rfl, fun _ => rfl, fun _ _ _ => rfl⟩

end World

end NodeDeploy
