import NodeDeploy.Proofs.Course

/-! # Runs

A run is a sequence of events: passes over any keys, by engines whose settings may differ from pass
to pass, and changes that the environment makes in between.

* `World.after` is the world after a run, and `World.after_preserves` the induction that says what
  holds of it.
* `outcomesOf` lists the outcomes of the passes over one key.
* `World.Reached`: what becomes of a world in a history, where all that is known of the environment
  is which changes it may make.
* `filed_after`: in every run, objects stay under their own key. `core_pass` and `find?_claims_pass`
  say what else a pass leaves alone: who an intent is and what it asks for, and stored claims.
* `pod_of_deployed`, `attachment_of_deployed` and `claim_of_deployed`: what is stored on the way to
  a ready node was there before or is of the plan.
-/

namespace NodeDeploy

/-! ## Events -/

/-- A change that the environment makes to what is stored. -/
inductive Change where
  | addIntent (intent : NodeIntent)
  | addConfig (config : NodeConfig)
  | addSecret (secret : Secret)
  | setPodStatus (key : ObjectKey) (status : PodStatus)
  /-- Marks an intent as being deleted since an instant. -/
  | markDeleted (key : ObjectKey) (since : Instant)
  /-- Refuses the creation of pods from now on, or allows it again. -/
  | refusePods (message : Option String)

def Change.apply (m : Memory) : Change → Memory
  | .addIntent i => m.addIntent i
  | .addConfig c => m.addConfig c
  | .addSecret s => m.addSecret s
  | .setPodStatus k s => m.setPodStatus k s
  | .markDeleted k since => m.markDeleted k since
  | .refusePods message => { m with refusingPods := message }

inductive Event where
  | pass (engine : Engine) (key : ObjectKey) (now : Instant)
  | change (change : Change)

def Event.run (w : World Bench) : Event → World Bench
  | .pass e key now => (e.pass World.store (World.link Bench.connector) key now w).2
  | .change c => { w with memory := c.apply w.memory }

def World.after (w : World Bench) (l : List Event) : World Bench := l.foldl Event.run w

def Event.outcomeOf (k : ObjectKey) (w : World Bench) : Event → List (Except Failure Outcome)
  | .pass e key now =>
    if key = k then [(e.pass World.store (World.link Bench.connector) key now w).1] else []
  | .change _ => []

def outcomesOf (k : ObjectKey) : List Event → World Bench → List (Except Failure Outcome)
  | [], _ => []
  | v :: l, w => v.outcomeOf k w ++ outcomesOf k l (v.run w)

namespace World

theorem after_cons (w : World Bench) (v : Event) (l : List Event) :
    w.after (v :: l) = (v.run w).after l := rfl

/-- **What every event of a run preserves holds after the run.** -/
theorem after_preserves {P : World Bench → Prop} {l : List Event} {w : World Bench}
    (hstep : ∀ v ∈ l, ∀ w, P w → P (v.run w)) (h : P w) : P (w.after l) := by
  induction l generalizing w with
  | nil => exact h
  | cons v l ih =>
    exact ih (fun u hu => hstep u (List.mem_cons_of_mem v hu)) (hstep v List.mem_cons_self w h)

end World

/-! ## Histories -/

/-- What a world may become: engines pass over any keys, and in between the environment changes the
memory as `others` allows, and the device as it likes. -/
inductive World.Reached {δ : Type} (others : Memory → Memory → Prop) (w : World δ) :
    World δ → Prop where
  | start : World.Reached others w w
  | pass {v : World δ} (prior : World.Reached others w v) (e : Engine) (c : Connector δ)
      (key : ObjectKey) (now : Instant) :
      World.Reached others w (e.pass World.store (World.link c) key now v).2
  | change {v : World δ} (prior : World.Reached others w v) {m : Memory}
      (h : others v.memory m) (d : δ) : World.Reached others w ⟨m, d⟩

namespace World.Reached

variable {δ : Type} {others : Memory → Memory → Prop} {u v w : World δ}

theorem trans (h : Reached others u v) (g : Reached others v w) : Reached others u w := by
  induction g with
  | start => exact h
  | pass _ e c key now ih => exact .pass ih e c key now
  | change _ hm d ih => exact .change ih hm d

/-- **What passes and the environment preserve holds in every history.** -/
theorem preserves {P : Memory → Prop} (h : Reached others w v) (hw : P w.memory)
    (hpass : ∀ (u : World δ) (e : Engine) (c : Connector δ) (key : ObjectKey) (now : Instant),
      P u.memory → P (e.pass store (link c) key now u).2.memory)
    (hothers : ∀ m n, P m → others m n → P n) : P v.memory := by
  induction h with
  | start => exact hw
  | pass _ e c key now ih => exact hpass _ e c key now ih
  | change _ hm d ih => exact hothers _ _ ih hm

end World.Reached

/-! ## Objects stay under their own key -/

namespace Memory

variable {m : Memory}

/-- What a change of the value of a key leaves alone is what it was. -/
theorem exists_of_find?_modify {α β : Type} {d : Dict ObjectKey α} {k j : ObjectKey} {f : α → α}
    {g : α → β} {y : α} (h : (d.modify k f).find? j = some y) (hf : ∀ x, g (f x) = g x) :
    ∃ x, d.find? j = some x ∧ g y = g x := by
  rw [Dict.find?_modify] at h
  split at h
  · obtain ⟨x, hx, rfl⟩ := Option.map_eq_some_iff.1 h
    exact ⟨x, hx, hf x⟩
  · exact ⟨y, h, rfl⟩

theorem filed_modify {α : Type} {d : Dict ObjectKey α} {key : α → ObjectKey}
    (h : ∀ k y, d.find? k = some y → key y = k) (j : ObjectKey) {f : α → α}
    (hf : ∀ y, key (f y) = key y) : ∀ k y, (d.modify j f).find? k = some y → key y = k := by
  intro k y hy
  obtain ⟨x, hx, hkey⟩ := exists_of_find?_modify hy hf
  exact hkey.trans (h k x hx)

theorem filed_erase {α : Type} {d : Dict ObjectKey α} {key : α → ObjectKey}
    (h : ∀ k y, d.find? k = some y → key y = k) (j : ObjectKey) :
    ∀ k y, (d.erase j).find? k = some y → key y = k := by
  intro k y hy
  rw [Dict.find?_erase] at hy
  split at hy
  · cases hy
  · exact h k y hy

theorem Filed.addFinalizer (h : m.Filed) (i : NodeIntent) (f : String) :
    (m.addFinalizer i f).Filed :=
  { h with intents := filed_modify h.intents _ fun _ => rfl }

theorem Filed.removeFinalizer (h : m.Filed) (i : NodeIntent) (f : String) :
    (m.removeFinalizer i f).2.Filed := by
  rw [Memory.removeFinalizer]
  split
  · exact h
  · dsimp only
    split
    · exact h
    · next j hj =>
      split
      · exact { h with intents := filed_erase h.intents _ }
      · have hkey := h.intents _ j hj
        rw [← hkey]
        exact { h with intents := filed_insert h.intents { j with
          metadata := withoutFinalizer f j.metadata } }

theorem Filed.recorded (h : m.Filed) (i : NodeIntent) (c : Condition) : (m.recorded i c).Filed := by
  rw [Memory.recorded]
  split
  · exact { h with intents := filed_modify h.intents _ fun _ => rfl }
  · exact h

theorem Filed.applyClaims (h : m.Filed) (l : List VolumeClaim) : (m.applyClaims l).Filed := by
  induction l generalizing m with
  | nil => exact h
  | cons c l ih =>
    rw [applyClaims_cons]
    refine ih ?_
    rw [applyClaim]
    split
    · exact h
    · exact { h with claims := filed_insert h.claims c }

theorem Filed.applyAttachments (h : m.Filed) (l : List NetworkAttachment) :
    (m.applyAttachments l).Filed := by
  induction l generalizing m with
  | nil => exact h
  | cons a l ih =>
    rw [applyAttachments_cons]
    refine ih ?_
    rw [applyAttachment]
    split
    · exact h
    · exact { h with attachments := filed_insert h.attachments a }

theorem Filed.convergePod (h : m.Filed) (p : Pod) : (m.convergePod p).2.Filed := by
  have hpods : ∀ k q, (m.convergePod p).2.pods.find? k = some q → q.metadata.key = k := by
    intro k q hq
    by_cases hk : k = p.metadata.key
    · subst hk
      rcases convergePod_source hq with hq | rfl
      · exact h.pods _ q hq
      · rfl
    · rw [find?_convergePod_ne hk] at hq
      exact h.pods k q hq
  rw [convergePod_eq]
  exact { h with pods := hpods }

end Memory

theorem Plan.filed_prepared {m : Memory} (h : m.Filed) (p : Plan) (i : NodeIntent) :
    (p.prepared i m).Filed :=
  ((h.addFinalizer i _).applyClaims _).applyAttachments _

namespace Engine

theorem filed_deployed {m : Memory} (h : m.Filed) (e : Engine) (i : NodeIntent) :
    (e.deployed i m).Filed := by
  rw [deployed]
  split
  · exact (Plan.filed_prepared h _ i).convergePod _
  · exact h.addFinalizer i _

theorem filed_pass {δ : Type} {w : World δ} (h : w.memory.Filed) (e : Engine) (c : Connector δ)
    (key : ObjectKey) (now : Instant) :
    (e.pass World.store (World.link c) key now w).2.memory.Filed := by
  refine pass_preserves h (fun i _ _ => ?_) (fun i _ _ => ?_) (fun i condition m _ hm => ?_) c now
  · exact filed_deployed h e i
  · exact h.removeFinalizer i intentFinalizer
  · exact hm.recorded i condition

end Engine

theorem Change.filed_apply {m : Memory} (h : m.Filed) (c : Change) : (c.apply m).Filed := by
  cases c with
  | addIntent i => exact h.addIntent i
  | addConfig c => exact h.addConfig c
  | addSecret s => exact h.addSecret s
  | setPodStatus k s => exact { h with pods := Memory.filed_modify h.pods k fun _ => rfl }
  | markDeleted k since => exact { h with intents := Memory.filed_modify h.intents k fun _ => rfl }
  | refusePods message => exact { h with }

theorem Event.filed_run {w : World Bench} (h : w.memory.Filed) (v : Event) :
    (v.run w).memory.Filed := by
  cases v with
  | pass e key now => exact Engine.filed_pass h e Bench.connector key now
  | change c => exact c.filed_apply h

/-- **In every run, objects stay under their own key.** -/
theorem filed_after {w : World Bench} (h : w.memory.Filed) (l : List Event) :
    (w.after l).memory.Filed :=
  World.after_preserves (P := fun w => w.memory.Filed) (fun v _ _ hw => v.filed_run hw) h

/-! ## Intents stay what they are -/

/-- What an intent asks for and who it is: all of it but its finalizers and its status. -/
def NodeIntent.core (i : NodeIntent) : NodeIntent :=
  { i with metadata := { i.metadata with finalizers := none }, status := none }

@[simp] theorem NodeIntent.ownerReference?_core (i : NodeIntent) :
    i.core.ownerReference? = i.ownerReference? := rfl

@[simp] theorem NodeIntent.isDeleted_core (i : NodeIntent) :
    i.core.metadata.isDeleted = i.metadata.isDeleted := rfl

namespace Memory

variable {m : Memory} {k : ObjectKey} {i j : NodeIntent}

theorem core_addFinalizer {f : String} (h : (m.addFinalizer i f).intents.find? k = some j) :
    ∃ x, m.intents.find? k = some x ∧ j.core = x.core :=
  exists_of_find?_modify h fun _ => rfl

theorem core_recorded {c : Condition} (h : (m.recorded i c).intents.find? k = some j) :
    ∃ x, m.intents.find? k = some x ∧ j.core = x.core := by
  rw [recorded] at h
  split at h
  · exact exists_of_find?_modify h fun _ => rfl
  · exact ⟨j, h, rfl⟩

theorem core_removeFinalizer {f : String} (h : (m.removeFinalizer i f).2.intents.find? k = some j) :
    ∃ x, m.intents.find? k = some x ∧ j.core = x.core := by
  by_cases hk : k = i.metadata.key
  · subst hk
    rw [removeFinalizer] at h
    split at h
    · exact ⟨j, h, rfl⟩
    · dsimp only at h
      split at h
      · exact ⟨j, h, rfl⟩
      · next x hx =>
        split at h
        · rw [Dict.find?_erase_self] at h
          cases h
        · rw [Dict.find?_insert_self] at h
          exact ⟨x, hx, Option.some.inj h ▸ rfl⟩
  · rw [find?_removeFinalizer_ne hk] at h
    exact ⟨j, h, rfl⟩

end Memory

namespace Engine

theorem core_deployed {e : Engine} {m : Memory} {i j : NodeIntent} {k : ObjectKey}
    (h : (e.deployed i m).intents.find? k = some j) :
    ∃ x, m.intents.find? k = some x ∧ j.core = x.core := by
  rw [deployed_eq] at h
  exact Memory.core_addFinalizer h

/-- **A pass changes no intent but for its finalizers and its status**, and makes none. -/
theorem core_pass {δ : Type} {w : World δ} {e : Engine} {c : Connector δ} {key k : ObjectKey}
    {now : Instant} {j : NodeIntent}
    (h : (e.pass World.store (World.link c) key now w).2.memory.intents.find? k = some j) :
    ∃ i, w.memory.intents.find? k = some i ∧ j.core = i.core := by
  have hall : ∀ x, (e.pass World.store (World.link c) key now w).2.memory.intents.find? k =
      some x → ∃ i, w.memory.intents.find? k = some i ∧ x.core = i.core := by
    refine pass_preserves (P := fun m => ∀ x, m.intents.find? k = some x →
      ∃ i, w.memory.intents.find? k = some i ∧ x.core = i.core) (fun x hx => ⟨x, hx, rfl⟩)
      (fun i _ _ x hx => ?_) (fun i _ _ x hx => ?_) (fun i condition m _ hm x hx => ?_) c now
    · exact core_deployed hx
    · exact Memory.core_removeFinalizer hx
    · obtain ⟨y, hy, hxy⟩ := Memory.core_recorded hx
      obtain ⟨z, hz, hyz⟩ := hm y hy
      exact ⟨z, hz, hxy.trans hyz⟩
  exact hall j h

end Engine

/-! ## Claims stay -/

namespace Engine

variable {m : Memory} {c : ObjectKey} {claim : VolumeClaim}

theorem find?_claims_of_plan {e : Engine} {i : NodeIntent} {p : Plan} (hp : e.plan m i = .ok p)
    (c : ObjectKey) : (e.deployed i m).claims.find? c =
      (m.claims.find? c).or (p.claims.find? fun x => x.metadata.key = c) := by
  rw [deployed_of_plan hp, Memory.convergePod_eq]
  exact Plan.find?_claims_prepared p i m c

theorem find?_claims_deployed (h : m.claims.find? c = some claim) (e : Engine) (i : NodeIntent) :
    (e.deployed i m).claims.find? c = some claim := by
  rcases hp : e.plan m i with stop | p
  · rw [deployed, hp]
    exact h
  · rw [find?_claims_of_plan hp, h]
    rfl

theorem contains_claims_deployed (h : m.claims.contains c = true) (e : Engine) (i : NodeIntent) :
    (e.deployed i m).claims.contains c = true := by
  obtain ⟨claim, hc⟩ := Option.isSome_iff_exists.1 h
  exact Option.isSome_of_mem (find?_claims_deployed hc e i)

theorem contains_claims_of_plan {e : Engine} {i : NodeIntent} {p : Plan} (hp : e.plan m i = .ok p)
    (hc : claim ∈ p.claims) : (e.deployed i m).claims.contains claim.metadata.key = true := by
  rw [Dict.contains, find?_claims_of_plan hp, Option.isSome_or, Bool.or_eq_true]
  exact .inr (List.find?_isSome.2 ⟨claim, hc, by simp⟩)

/-- **No pass changes a claim that is stored.** -/
theorem find?_claims_pass {δ : Type} {w : World δ} (h : w.memory.claims.find? c = some claim)
    (e : Engine) (conn : Connector δ) (key : ObjectKey) (now : Instant) :
    (e.pass World.store (World.link conn) key now w).2.memory.claims.find? c = some claim := by
  rcases parts_of_pass e conn key now w with hsame | ⟨i, -, -, hsame⟩
  · rw [hsame.claims]
    exact h
  · rw [hsame.claims]
    exact find?_claims_deployed h e i

end Engine

/-! ## Where parts come from -/

namespace Engine

variable {e : Engine} {m : Memory} {i : NodeIntent} {k : ObjectKey}

/-- **A pod was there before, or is the one that is wanted.** -/
theorem pod_of_deployed {q : Pod} (h : (e.deployed i m).pods.find? k = some q) :
    m.pods.find? k = some q ∨ ∃ p, e.plan m i = .ok p ∧ k = i.metadata.key ∧
      q = { p.pod with status := m.initialStatus } := by
  rcases hp : e.plan m i with stop | p
  · rw [deployed, hp] at h
    exact .inl h
  have hpods : (p.prepared i m).pods = m.pods := by rw [Plan.prepared_eq]
  have hstatus : (p.prepared i m).initialStatus = m.initialStatus := by rw [Plan.prepared_eq]
  rw [deployed_of_plan hp] at h
  by_cases hk : k = p.pod.metadata.key
  · subst hk
    rcases Memory.convergePod_source h with hold | rfl
    · rw [hpods] at hold
      exact .inl hold
    · exact .inr ⟨p, rfl, key_of_plan hp, by rw [hstatus]⟩
  · rw [Memory.find?_convergePod_ne hk, hpods] at h
    exact .inl h

theorem attachments_of_plan {p : Plan} (hp : e.plan m i = .ok p) :
    (e.deployed i m).attachments = (p.prepared i m).attachments := by
  rw [deployed_of_plan hp, Memory.convergePod_eq]

/-- **An attachment was there before, or is of the plan.** -/
theorem attachment_of_deployed {a : NetworkAttachment}
    (h : (e.deployed i m).attachments.find? k = some a) :
    m.attachments.find? k = some a ∨ ∃ p, e.plan m i = .ok p ∧ a ∈ p.attachments := by
  rcases hp : e.plan m i with stop | p
  · rw [deployed, hp] at h
    exact .inl h
  rw [attachments_of_plan hp] at h
  rcases Memory.applyAttachments_source h with hold | hnew
  · rw [Memory.attachments_applyClaims] at hold
    exact .inl hold
  · exact .inr ⟨p, rfl, hnew⟩

/-- **A claim was there before, or is of the plan.** -/
theorem claim_of_deployed {x : VolumeClaim} (h : (e.deployed i m).claims.find? k = some x) :
    m.claims.find? k = some x ∨
      ∃ p, e.plan m i = .ok p ∧ x ∈ p.claims ∧ x.metadata.key = k := by
  rcases hp : e.plan m i with stop | p
  · rw [deployed, hp] at h
    exact .inl h
  rw [find?_claims_of_plan hp, Option.or_eq_some_iff] at h
  rcases h with hold | ⟨-, hnew⟩
  · exact .inl hold
  · have hkey : x.metadata.key = k := by simpa using List.find?_some hnew
    exact .inr ⟨p, rfl, List.mem_of_find?_eq_some hnew, hkey⟩

end Engine

end NodeDeploy
