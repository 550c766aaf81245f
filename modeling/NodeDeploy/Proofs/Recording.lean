import NodeDeploy.Engine.Pass
import NodeDeploy.Store.Memory

/-! # What a pass writes into an intent

A pass writes two things into the intent itself: its finalizer and the condition that tells how the
pass ended. Both are written only if they are missing.

* `NodeIntent.guarded` is an intent with the finalizer, and `NodeIntent.statusTelling` the status
  with a condition.
* `Memory.recorded` is the memory with a condition of an intent.
* `addFinalizer_eq_self` and `recorded_eq_self`: what is there is not written again.
* `find?_recorded_ne` and `find?_removeFinalizer_ne`: other intents are left as they are.
* `Memory.SameParts`: the pods, attachments and claims are the same, as they are after either.
-/

namespace NodeDeploy

def NodeIntent.guarded (i : NodeIntent) : NodeIntent :=
  { i with metadata := Memory.withFinalizer intentFinalizer i.metadata }

/-- The status that tells a condition; it is the old one if that does so already. -/
def NodeIntent.statusTelling (i : NodeIntent) (c : Condition) : Option NodeIntentStatus :=
  if i.statusOrEmpty.changedBy c then some (i.statusOrEmpty.set c) else i.status

namespace Memory

/-! ## Finalizers -/

theorem withFinalizer_idem (f : String) (d : Metadata) :
    withFinalizer f (withFinalizer f d) = withFinalizer f d := by
  have hmem : (withFinalizer f d).finalizerList.contains f = true := by
    simp only [withFinalizer, Metadata.finalizerList, Option.getD_some]
    by_cases h : f ∈ d.finalizers.getD [] <;> simp [h]
  rw [withFinalizer]
  simp only [hmem, if_true]
  rfl

theorem mem_withFinalizer {f g : String} {d : Metadata} :
    g ∈ (withFinalizer f d).finalizerList ↔ g = f ∨ g ∈ d.finalizerList := by
  simp only [withFinalizer, Metadata.finalizerList, Option.getD_some]
  by_cases hf : f ∈ d.finalizers.getD []
  · simp only [List.contains_iff_mem, hf, if_true]
    exact ⟨.inr, fun h => h.elim (fun hg => hg ▸ hf) id⟩
  · simp [hf, or_comm]

theorem find?_addFinalizer {m : Memory} {i j : NodeIntent} {f : String}
    (h : m.intents.find? i.metadata.key = some j) :
    (m.addFinalizer i f).intents.find? i.metadata.key =
      some { j with metadata := withFinalizer f j.metadata } := by
  rw [addFinalizer, Dict.find?_modify, if_pos rfl, h]
  rfl

theorem addFinalizer_eq_self {m : Memory} {i j : NodeIntent} {f : String}
    (h : m.intents.find? i.metadata.key = some j) (hf : withFinalizer f j.metadata = j.metadata) :
    m.addFinalizer i f = m := by
  rw [addFinalizer, Dict.modify_eq_self]
  intro x hx
  obtain rfl : j = x := Option.some.inj (h.symm.trans hx)
  rw [hf]

theorem removeFinalizer_of_granted {m : Memory} (h : m.refusingRelease = none) (i : NodeIntent)
    (f : String) : (m.removeFinalizer i f).1 = .ok () := by
  rw [removeFinalizer, h]
  dsimp only
  split
  · rfl
  · split <;> rfl

theorem removeFinalizer_eq (i : NodeIntent) (f : String) (m : Memory) :
    (m.removeFinalizer i f).2 = { m with intents := (m.removeFinalizer i f).2.intents } := by
  rw [removeFinalizer]
  split
  · rfl
  · dsimp only
    split
    · rfl
    · split <;> rfl

theorem find?_removeFinalizer_ne {i : NodeIntent} {k : ObjectKey} (h : k ≠ i.metadata.key)
    (f : String) (m : Memory) : (m.removeFinalizer i f).2.intents.find? k = m.intents.find? k := by
  rw [removeFinalizer]
  rcases m.refusingRelease with _ | message
  · dsimp only
    rcases m.intents.find? i.metadata.key with _ | j
    · rfl
    · dsimp only
      split
      · exact Dict.find?_erase_ne _ h
      · exact Dict.find?_insert_ne _ h _
  · rfl

/-- What is left of an intent that is released. -/
theorem find?_removeFinalizer {m : Memory} {i j : NodeIntent} (hr : m.refusingRelease = none)
    (h : m.intents.find? i.metadata.key = some j) (f : String) :
    (m.removeFinalizer i f).2.intents.find? i.metadata.key =
      if isReleased { j with metadata := withoutFinalizer f j.metadata } then none
      else some { j with metadata := withoutFinalizer f j.metadata } := by
  rw [removeFinalizer, hr]
  simp only [h]
  split
  · exact Dict.find?_erase_self _ _
  · exact Dict.find?_insert_self _ _ _

/-- Only the intent itself and the refusal count. -/
theorem removeFinalizer_congr_at {m n : Memory} {i : NodeIntent}
    (h : m.intents.find? i.metadata.key = n.intents.find? i.metadata.key)
    (hr : m.refusingRelease = n.refusingRelease) (f : String) :
    (m.removeFinalizer i f).2.intents.find? i.metadata.key =
      (n.removeFinalizer i f).2.intents.find? i.metadata.key := by
  rw [removeFinalizer, removeFinalizer, ← hr]
  rcases m.refusingRelease with _ | message
  · dsimp only
    rw [← h]
    rcases hm : m.intents.find? i.metadata.key with _ | j
    · exact h
    · dsimp only
      split
      · rw [Dict.find?_erase_self, Dict.find?_erase_self]
      · rw [Dict.find?_insert_self, Dict.find?_insert_self]
  · exact h

/-- Only the intents and the refusal count. -/
theorem removeFinalizer_intents_congr {m n : Memory} (hi : m.intents = n.intents)
    (hr : m.refusingRelease = n.refusingRelease) (i : NodeIntent) (f : String) :
    (m.removeFinalizer i f).2.intents = (n.removeFinalizer i f).2.intents := by
  refine Dict.ext_find? fun k => ?_
  by_cases hk : k = i.metadata.key
  · rw [hk, removeFinalizer_congr_at (by rw [hi]) hr]
  · rw [find?_removeFinalizer_ne hk, find?_removeFinalizer_ne hk, hi]

theorem removeFinalizer_of_refused {m : Memory} {message : String}
    (h : m.refusingRelease = some message) (i : NodeIntent) (f : String) :
    m.removeFinalizer i f = (.error (.backend message), m) := by
  rw [removeFinalizer, h]

/-! ## Conditions -/

/-- The memory with a condition of an intent, unless the intent is in that state already. -/
def recorded (i : NodeIntent) (c : Condition) (m : Memory) : Memory :=
  if i.statusOrEmpty.changedBy c then
    m.updateStatus { i with status := some (i.statusOrEmpty.set c) }
  else m

theorem recorded_eq (i : NodeIntent) (c : Condition) (m : Memory) : m.recorded i c =
    { m with
      intents := (m.recorded i c).intents
      statusWrites := (m.recorded i c).statusWrites } := by
  rw [recorded]
  split <;> rfl

theorem recorded_eq_self {i : NodeIntent} {c : Condition}
    (h : i.statusOrEmpty.changedBy c = false) (m : Memory) : m.recorded i c = m := by
  rw [recorded, h]
  rfl

theorem find?_recorded {m : Memory} {i j : NodeIntent} (c : Condition)
    (h : m.intents.find? i.metadata.key = some j) (hs : j.status = i.status) :
    (m.recorded i c).intents.find? i.metadata.key =
      some { j with status := i.statusTelling c } := by
  rw [recorded, NodeIntent.statusTelling]
  split
  · rw [updateStatus, Dict.find?_modify, if_pos rfl, h]
    rfl
  · rw [h, ← hs]

/-- Only the intent under the key counts. -/
theorem find?_recorded_congr {m n : Memory} {k : ObjectKey}
    (h : m.intents.find? k = n.intents.find? k) (i : NodeIntent) (c : Condition) :
    (m.recorded i c).intents.find? k = (n.recorded i c).intents.find? k := by
  rw [recorded, recorded]
  split
  · rw [updateStatus, updateStatus, Dict.find?_modify, Dict.find?_modify, h]
  · exact h

theorem find?_recorded_ne {i : NodeIntent} {k : ObjectKey} (h : k ≠ i.metadata.key) (c : Condition)
    (m : Memory) : (m.recorded i c).intents.find? k = m.intents.find? k := by
  rw [recorded]
  split
  · rw [updateStatus, Dict.find?_modify, if_neg h]
  · rfl

/-! ## What is left alone -/

structure SameParts (m n : Memory) : Prop where
  pods : m.pods = n.pods
  attachments : m.attachments = n.attachments
  claims : m.claims = n.claims

theorem SameParts.trans {m n o : Memory} (h : m.SameParts n) (g : n.SameParts o) :
    m.SameParts o :=
  ⟨h.pods.trans g.pods, h.attachments.trans g.attachments, h.claims.trans g.claims⟩

theorem sameParts_removeFinalizer (i : NodeIntent) (f : String) (m : Memory) :
    (m.removeFinalizer i f).2.SameParts m := by
  rw [removeFinalizer_eq]
  exact ⟨rfl, rfl, rfl⟩

theorem sameParts_recorded (i : NodeIntent) (c : Condition) (m : Memory) :
    (m.recorded i c).SameParts m := by
  rw [recorded_eq]
  exact ⟨rfl, rfl, rfl⟩

end Memory

namespace NodeIntent

/-- Afterwards the stored condition is in the state that was told. -/
theorem exists_condition?_statusTelling (i : NodeIntent) (c : Condition) :
    ∃ d, ((i.statusTelling c).getD .empty).condition? c.type = some d ∧ d.sameState c = true := by
  have hset : (i.statusTelling c).getD .empty = i.statusOrEmpty.set c := by
    rw [statusTelling]
    split
    · rfl
    · next h =>
      rw [NodeIntentStatus.set, setCondition_eq_self (Bool.eq_false_iff.2 h)]
      rfl
  rw [hset]
  exact exists_find?_setCondition c _

theorem changedBy_statusTelling {c d : Condition} (h : c.sameState d = true) (i : NodeIntent) :
    ((i.statusTelling c).getD .empty).changedBy d = false := by
  rw [statusTelling]
  split
  · exact changesCondition_setCondition h _
  · next hc =>
    have hset := changesCondition_setCondition h i.statusOrEmpty.conditions
    rwa [setCondition_eq_self (Bool.eq_false_iff.2 hc)] at hset

end NodeIntent

end NodeDeploy
