import NodeDeploy.Proofs.Reports
import NodeDeploy.Proofs.Runs

/-! # Release

An intent that is being deleted stays until nothing holds it any more: the engine takes its own
finalizer away, and whoever else has put one there does the same in time. Meanwhile the engine may
pass over the intent as often as it likes.

* `Memory.Doomed k`: the intent of the key is being deleted, if it is still there. `Doomed.pass` and
  `doomed_reached`: so it stays, whatever the environment does short of bringing the intent back.
  `World.reached_after`: so does every run that adds no intent under the key.
* `Engine.Releases` is all that a pass over such a key does, and `releases_pass` says so.
* `released_only`: in every history from there on, a pass over the key does nothing else.
-/

namespace NodeDeploy

/-- What is left of an intent when the engine has taken its finalizer away, as often as it is there:
all other finalizers in their order. -/
def NodeIntent.released (i : NodeIntent) : NodeIntent :=
  { i with metadata := { i.metadata with
      finalizers := i.metadata.finalizers.map fun l => l.filter (· ≠ intentFinalizer) } }

namespace NodeIntent

theorem released_eq (i : NodeIntent) :
    { i with metadata := Memory.withoutFinalizer intentFinalizer i.metadata } = i.released := by
  have hfilter (l : List String) :
      l.filter (· != intentFinalizer) = l.filter (· ≠ intentFinalizer) := by
    refine List.filter_congr ?_
    intro f _
    by_cases hf : f = intentFinalizer <;> simp [hf]
  rw [released, Memory.withoutFinalizer]
  simp only [hfilter]

/-- An intent that is being deleted goes away exactly if the finalizer of the engine is the only one
that it has. -/
theorem isReleased_released {i : NodeIntent} (hl : i.metadata.isDeleted = true) :
    Memory.isReleased i.released = true ↔ ∀ f ∈ i.metadata.finalizerList, f = intentFinalizer := by
  have hmark : i.released.metadata.isDeleted = true := hl
  rw [Memory.isReleased, hmark, Bool.true_and, List.isEmpty_iff, Metadata.finalizerList,
    Metadata.finalizerList, released]
  rcases i.metadata.finalizers with _ | l
  · simp
  · simp [List.filter_eq_nil_iff]

end NodeIntent

/-! ## While an intent is being deleted -/

namespace Memory

/-- The intent of a key is being deleted, if it is still there. -/
structure Doomed (k : ObjectKey) (m : Memory) : Prop where
  filed : m.Filed
  deleted : ∀ i, m.intents.find? k = some i → i.metadata.isDeleted = true

/-- A change that does not bring the intent of a key back: one that is gone stays away, and one that
is being deleted still is. -/
structure Forsakes (k : ObjectKey) (m n : Memory) : Prop where
  filed : n.Filed
  gone : m.intents.find? k = none → n.intents.find? k = none
  deleted : ∀ i, n.intents.find? k = some i → i.metadata.isDeleted = true

variable {k : ObjectKey} {m n : Memory}

theorem Doomed.pass {δ : Type} {w : World δ} (h : Doomed k w.memory) (e : Engine)
    (c : Connector δ) (key : ObjectKey) (now : Instant) :
    Doomed k (e.pass World.store (World.link c) key now w).2.memory := by
  refine ⟨Engine.filed_pass h.filed e c key now, ?_⟩
  intro j hj
  obtain ⟨i, hi, hcore⟩ := Engine.core_pass hj
  rw [← NodeIntent.isDeleted_core, hcore, NodeIntent.isDeleted_core]
  exact h.deleted i hi

theorem gone_pass {δ : Type} {w : World δ} (h : w.memory.intents.find? k = none) (e : Engine)
    (c : Connector δ) (key : ObjectKey) (now : Instant) :
    (e.pass World.store (World.link c) key now w).2.memory.intents.find? k = none := by
  refine Option.eq_none_iff_forall_ne_some.2 ?_
  intro j hj
  obtain ⟨i, hi, -⟩ := Engine.core_pass hj
  rw [h] at hi
  cases hi

/-- **What is being deleted stays so**, until it is gone. -/
theorem doomed_reached {δ : Type} {w v : World δ} (h : Doomed k w.memory)
    (hv : World.Reached (Forsakes k) w v) : Doomed k v.memory :=
  hv.preserves h (fun _ e c key now hu => hu.pass e c key now)
    fun _ _ _ hn => ⟨hn.filed, hn.deleted⟩

/-- **What is gone stays away.** -/
theorem gone_reached {δ : Type} {w v : World δ} (h : w.memory.intents.find? k = none)
    (hv : World.Reached (Forsakes k) w v) : v.memory.intents.find? k = none :=
  hv.preserves (P := fun m => m.intents.find? k = none) h
    (fun _ e c key now hu => gone_pass hu e c key now) fun _ _ hm hn => hn.gone hm

end Memory

/-- A change forsakes the intent that is being deleted, unless it adds an intent under its key. -/
theorem Change.forsakes {k : ObjectKey} {m : Memory} (h : m.Doomed k) (c : Change)
    (hadd : ∀ i, c = .addIntent i → i.metadata.key ≠ k) : m.Forsakes k (c.apply m) := by
  have hfiled := c.filed_apply h.filed
  cases c with
  | addIntent i =>
    have hother : (m.addIntent i).intents.find? k = m.intents.find? k :=
      Dict.find?_insert_ne _ (hadd i rfl).symm i
    exact ⟨hfiled, hother.trans, fun j hj => h.deleted j (hother.symm.trans hj)⟩
  | addConfig c => exact ⟨hfiled, id, h.deleted⟩
  | addSecret s => exact ⟨hfiled, id, h.deleted⟩
  | setPodStatus j s => exact ⟨hfiled, id, h.deleted⟩
  | markDeleted j since =>
    refine ⟨hfiled, fun hk => ?_, fun i hi => ?_⟩
    · rw [Change.apply, Memory.markDeleted, Dict.find?_modify, hk]
      split <;> rfl
    · rw [Change.apply, Memory.markDeleted, Dict.find?_modify] at hi
      split at hi
      · obtain ⟨x, -, rfl⟩ := Option.map_eq_some_iff.1 hi
        rfl
      · exact h.deleted i hi
  | refusePods message => exact ⟨hfiled, id, h.deleted⟩

/-- **Every run forsakes the intent that is being deleted**, unless it adds an intent under its
key. -/
theorem World.reached_after {k : ObjectKey} {w : World Bench} (h : w.memory.Doomed k)
    (l : List Event) (hadd : ∀ i, .change (.addIntent i) ∈ l → i.metadata.key ≠ k) :
    World.Reached (Memory.Forsakes k) w (w.after l) := by
  induction l generalizing w with
  | nil => exact .start
  | cons v l ih =>
    have hfirst : World.Reached (Memory.Forsakes k) w (v.run w) := by
      cases v with
      | pass e key now => exact .pass .start e Bench.connector key now
      | change c =>
        have hforsakes := c.forsakes h fun i hi => hadd i (hi ▸ List.mem_cons_self)
        exact .change .start hforsakes w.device
    exact hfirst.trans (ih (Memory.doomed_reached h hfirst) fun i hi =>
      hadd i (List.mem_cons_of_mem v hi))

/-! ## Passes over an intent that is being deleted -/

namespace Engine

/-- All that a pass over a key does whose intent is being deleted or gone, from the world `v` to the
world `u`. -/
structure Releases {δ : Type} (k : ObjectKey) (v : World δ) (outcome : Except Failure Outcome)
    (u : World δ) : Prop where
  /-- No session is opened: the device is as it was. -/
  device : u.device = v.device
  /-- Only intents and the count of the writes of their status may differ. -/
  memory : u.memory = { v.memory with
    intents := u.memory.intents
    statusWrites := u.memory.statusWrites }
  /-- Other intents do not. -/
  others : ∀ j, j ≠ k → u.memory.intents.find? j = v.memory.intents.find? j
  /-- If the intent is gone, the pass does nothing. -/
  gone : v.memory.intents.find? k = none → outcome = .ok ⟨.fetching, .never⟩ ∧ u = v
  /-- If the store lets it go, the intent loses the finalizer of the engine and no other, and is
  gone exactly if no other is left. -/
  granted : ∀ i, v.memory.intents.find? k = some i → v.memory.refusingRelease = none →
    outcome = .ok ⟨.finalizing, .never⟩ ∧ u.memory.statusWrites = v.memory.statusWrites ∧
      u.memory.intents.find? k =
        if ∀ f ∈ i.metadata.finalizerList, f = intentFinalizer then none else some i.released
  /-- If the store does not, the intent keeps its finalizers and reports why. -/
  refused : ∀ i message, v.memory.intents.find? k = some i →
    v.memory.refusingRelease = some message →
    outcome = .ok ⟨.finalizing, .immediate⟩ ∧ ∃ j, u.memory.intents.find? k = some j ∧
      j.metadata = i.metadata ∧ j.spec = i.spec ∧
      j.readyState? = some ⟨.fails, .failed, message⟩

variable {δ : Type} {k : ObjectKey} {i : NodeIntent}

/-- **A pass over an intent that is being deleted only releases it.** -/
theorem releases_pass {v : World δ} (h : v.memory.Doomed k) (e : Engine) (c : Connector δ)
    (now : Instant) : Releases k v (e.pass World.store (World.link c) k now v).1
      (e.pass World.store (World.link c) k now v).2 := by
  obtain ⟨m, d⟩ := v
  rcases Option.eq_none_or_eq_some (m.intents.find? k) with hi | ⟨i, hi⟩
  · rw [pass_of_missing hi]
    refine ⟨rfl, rfl, fun _ _ => rfl, fun _ => ⟨rfl, rfl⟩, ?_, ?_⟩
    · intro i hi'
      cases hi.symm.trans hi'
    · intro i message hi'
      cases hi.symm.trans hi'
  obtain rfl := h.filed.intents k i hi
  have hl := h.deleted i hi
  have hsame {j : NodeIntent} (hj : m.intents.find? i.metadata.key = some j) : j = i :=
    Option.some.inj (hj.symm.trans hi)
  have hthere : m.intents.find? i.metadata.key ≠ none := by rw [hi]; exact Option.some_ne_none i
  rcases Option.eq_none_or_eq_some m.refusingRelease with hr | ⟨message, hr⟩
  · rw [pass_of_released hi hl hr]
    refine ⟨rfl, ?_, ?_, fun hgone => absurd hgone hthere, ?_, ?_⟩
    · rw [Memory.removeFinalizer_eq]
    · intro j hj
      exact Memory.find?_removeFinalizer_ne hj intentFinalizer m
    · intro j hj _
      obtain rfl := hsame hj
      refine ⟨rfl, by rw [Memory.removeFinalizer_eq], ?_⟩
      have hleft := Memory.find?_removeFinalizer hr hj intentFinalizer
      rw [NodeIntent.released_eq] at hleft
      simp only [← NodeIntent.isReleased_released hl]
      exact hleft
    · intro j message hj hr'
      cases hr.symm.trans hr'
  · rw [pass_of_kept hi hl hr]
    generalize hended : (Except.error (Stop.failed .finalizing (.store (.backend message))) :
      Except Stop Unit) = ended
    refine ⟨rfl, Memory.recorded_eq _ _ _, ?_, fun hgone => absurd hgone hthere, ?_, ?_⟩
    · intro j hj
      exact Memory.find?_recorded_ne hj _ m
    · intro j hj hr'
      cases hr.symm.trans hr'
    · intro j message' hj hr'
      obtain rfl := hsame hj
      obtain rfl := Option.some.inj (hr.symm.trans hr')
      have hstored := Memory.find?_recorded (endCondition now ended) hj rfl
      have hreported := NodeIntent.readyState?_of_statusTelling (i := j)
        (j := { j with status := j.statusTelling (endCondition now ended) })
        (endCondition_type now ended) rfl
      refine ⟨by rw [← hended]; rfl, _, hstored, rfl, rfl, ?_⟩
      rw [hreported, ← hended]
      rfl

/-- **An intent that is being deleted is only ever released.** In every history that begins with the
intent of a key being deleted and in which the environment does not bring it back, a pass over the
key only releases it; once it is gone it stays so, and a pass over the key does nothing. -/
theorem released_only (k : ObjectKey) (w v : World δ) (hw : w.memory.Filed)
    (hi : w.memory.intents.find? k = some i) (hl : i.metadata.isDeleted = true)
    (hv : World.Reached (Memory.Forsakes k) w v) :
    (∀ (e : Engine) (c : Connector δ) (now : Instant),
      Releases k v (e.pass World.store (World.link c) k now v).1
        (e.pass World.store (World.link c) k now v).2) ∧
    (v.memory.intents.find? k = none → ∀ u, World.Reached (Memory.Forsakes k) v u →
      ∀ (e : Engine) (c : Connector δ) (now : Instant),
        e.pass World.store (World.link c) k now u = (.ok ⟨.fetching, .never⟩, u)) := by
  have hdoomed : w.memory.Doomed k := by
    refine ⟨hw, ?_⟩
    intro j hj
    rw [Option.some.inj (hj.symm.trans hi)]
    exact hl
  constructor
  · intro e c now
    exact releases_pass (Memory.doomed_reached hdoomed hv) e c now
  · intro hgone u hu e c now
    exact pass_of_missing (Memory.gone_reached hgone hu) c now u.device

end Engine

namespace Sample

/-- A node that is being deleted, which something else holds too. -/
def leaving : NodeIntent :=
  { intent with metadata := { intent.metadata with
      finalizers := some [intentFinalizer, "backup", intentFinalizer]
      deletionTimestamp := some default } }

/-- A world that does not let it go yet. -/
def closing : World Bench :=
  ⟨{ (memory "first").addIntent leaving with refusingRelease := some "busy" }, {}⟩

/-- The world after a pass over the node, when it lets the node go. -/
def yielding : World Bench :=
  ⟨{ (closing.after [.pass {} key default]).memory with refusingRelease := none }, {}⟩

theorem filed_closing : closing.memory.Filed :=
  { (filed_memory "first").addIntent leaving with }

theorem doomed_closing : closing.memory.Doomed key := by
  refine ⟨filed_closing, ?_⟩
  intro i hi
  obtain rfl : leaving = i := Option.some.inj hi
  rfl

theorem reached_yielding : World.Reached (Memory.Forsakes key) closing yielding := by
  have hrun := World.reached_after doomed_closing [.pass {} key default] (by simp)
  have hafter := Memory.doomed_reached doomed_closing hrun
  have hforsakes : Memory.Forsakes key (closing.after [.pass {} key default]).memory
      yielding.memory := ⟨{ hafter.filed with }, id, hafter.deleted⟩
  exact .change hrun hforsakes {}

end Sample

/-- In the sample the first pass is refused and tells so, and the second takes all but the finalizer
of the other away. -/
theorem Engine.released_only_sample : Sample.closing.memory.Filed ∧
    Sample.closing.memory.intents.find? Sample.key = some Sample.leaving ∧
    Sample.leaving.metadata.isDeleted = true ∧
    World.Reached (Memory.Forsakes Sample.key) Sample.closing Sample.yielding ∧
    ∃ u i, ({} : Engine).pass World.store (World.link Bench.connector) Sample.key default
        Sample.yielding = (.ok ⟨.finalizing, .never⟩, u) ∧
      u.memory.intents.find? Sample.key = some i ∧
      i.metadata.finalizers = some ["backup"] ∧ i.readyState? = some ⟨.fails, .failed, "busy"⟩ := by
  have hstored : Sample.closing.memory.intents.find? Sample.key = some Sample.leaving := rfl
  obtain ⟨hfirst, -⟩ := Engine.released_only Sample.key Sample.closing Sample.closing
    Sample.filed_closing hstored rfl .start
  obtain ⟨hsecond, -⟩ := Engine.released_only Sample.key Sample.closing Sample.yielding
    Sample.filed_closing hstored rfl Sample.reached_yielding
  obtain ⟨-, j, hj, hmetadata, -, hreported⟩ :=
    (hfirst {} Bench.connector default).refused Sample.leaving "busy" hstored rfl
  obtain ⟨hend, -, hleft⟩ := (hsecond {} Bench.connector default).granted j hj rfl
  have hothers : ¬∀ f ∈ j.metadata.finalizerList, f = intentFinalizer := by
    rw [hmetadata]
    decide
  rw [if_neg hothers] at hleft
  refine ⟨Sample.filed_closing, hstored, rfl, Sample.reached_yielding, _, _, Prod.ext hend rfl,
    hleft, ?_, hreported⟩
  rw [NodeIntent.released, hmetadata]
  rfl

end NodeDeploy
