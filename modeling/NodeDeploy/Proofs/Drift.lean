import NodeDeploy.Proofs.Idempotence
import NodeDeploy.Proofs.Reaching

/-! # The repair of drift

A pass that gets past convergence leaves a pod of the wanted revision. The revision tells of the
specification alone. A pod gets its owners, its labels and its annotations when it is made, the
networks that it selects among them, and they are not compared afterwards.

* `Pod.DressedAs`: a pod has the owners, the labels and the annotations of another.
* `isSome_networks_iff`: when the wanted pod selects networks.
* `drift_repaired`: a pass leaves a pod that is dressed as the wanted one exactly if it has not
  found one of the wanted revision that is dressed otherwise.
* `wiring_not_repaired`: a pod that was made without its networks never selects them.
-/

namespace NodeDeploy

/-- A pod has the owners, the labels and the annotations of another. -/
def Pod.DressedAs (q p : Pod) : Prop :=
  q.metadata.ownerReferences = p.metadata.ownerReferences ∧ q.metadata.labels = p.metadata.labels ∧
    q.metadata.annotations = p.metadata.annotations

namespace Engine

variable {δ : Type} {e : Engine} {c : Connector δ} {key : ObjectKey} {i : NodeIntent} {m : Memory}
  {d : δ}

/-- A pass that gets past the early phases has a plan and has converged the workload. -/
theorem converged_of_late (h : ¬EarlyPhase (endOutcome (e.ending c key i m d).1).phase) :
    ∃ p, e.plan m i = .ok p ∧ ((p.prepared i m).convergePod p.pod).1 = .ok () := by
  rcases hp : e.plan m i with stop | p
  · obtain ⟨phase, failure, rfl, hphase⟩ := plan_error hp
    rw [ending, errand_of_no_plan hp] at h
    exact absurd hphase h
  · refine ⟨p, rfl, ?_⟩
    rcases hc : ((p.prepared i m).convergePod p.pod).1 with error | _
    · rw [ending, errand_of_refused hp hc] at h
      exact absurd (by decide : EarlyPhase .converging) h
    · rfl

/-- **The wanted pod selects networks exactly if they are attached and its driver wires any.** -/
theorem isSome_networks_iff {driver : Driver} {config : NodeConfig} {l : List NetworkAttachment}
    {p : Pod} (hs : e.selected driver i = .ok l) (hw : driver.workload i config l = .ok p) :
    (p.metadata.annotation? networksAnnotation).isSome ↔
      e.attachNetworks = true ∧ driver.interfaces ≠ [] := by
  rw [NodeIntent.networks_pod (Driver.pod_of_workload hw)]
  rcases driver with ⟨layout, family⟩ | provider
  · rw [Wiring.selection?]
    rw [selected] at hs
    split at hs
    · next ha =>
      have hnil := mapM_eq_nil_iff hs
      simp [ha, Driver.interfaces, ← hnil]
    · next ha =>
      obtain rfl : [] = l := Except.ok.inj hs
      simp [ha]
  · simp [Driver.interfaces]

/-- **Drift is repaired as far as the revision tells of it.** A pass over an intent that is not
being deleted, which ends with the workload in place, leaves the pod that it wants unless it finds
one of the wanted revision, which it leaves as it is. So the stored pod is dressed as the wanted one
exactly if no pod of the wanted revision was there that was dressed otherwise. -/
theorem drift_repaired (e : Engine) (c : Connector δ) (key : ObjectKey) (now : Instant)
    (w : World δ) {i : NodeIntent} {outcome : Outcome} (hw : w.memory.Filed)
    (hi : w.memory.intents.find? key = some i) (hl : i.metadata.isDeleted = false)
    (h : (e.pass World.store (World.link c) key now w).1 = .ok outcome)
    (hphase : outcome.phase = .awaitingReady ∨ outcome.phase = .bootstrapping ∨
      outcome.phase = .ready) :
    ∃ driver config attachments wanted stored,
      e.resolved w.memory i = .ok (driver, config) ∧ e.selected driver i = .ok attachments ∧
      driver.workload i config attachments = .ok wanted ∧
      ((wanted.metadata.annotation? networksAnnotation).isSome ↔
        e.attachNetworks = true ∧ driver.interfaces ≠ []) ∧
      (e.pass World.store (World.link c) key now w).2.memory.pods.find? key = some stored ∧
      (stored.DressedAs wanted ↔ ∀ q, w.memory.pods.find? key = some q →
        q.revision? = wanted.revision? → q.DressedAs wanted) ∧
      (∀ q, w.memory.pods.find? key = some q → q.revision? = wanted.revision? → stored = q) ∧
      ((∀ q, w.memory.pods.find? key = some q → q.revision? ≠ wanted.revision?) →
        stored = { wanted with status := w.memory.initialStatus }) := by
  obtain ⟨m, d⟩ := w
  obtain rfl := hw.intents key i hi
  have hlate : ¬EarlyPhase (endOutcome (e.ending c i.metadata.key i m d).1).phase := by
    rw [pass_of_live hi hl] at h
    rw [Except.ok.inj h]
    rcases hphase with h | h | h <;> rw [h] <;> decide
  -- So the pass has a plan and was not refused: what it leaves is what convergence leaves.
  obtain ⟨p, hp, hc⟩ := converged_of_late hlate
  obtain ⟨hresolved, -, hselected, hworkload⟩ := plan_eq_ok_iff.1 hp
  obtain ⟨stored, hstored, -, hkept, hmade⟩ := stored_of_plan hp hc
  refine ⟨p.driver, p.config, p.attachments, p.pod, stored, hresolved, hselected, hworkload,
    isSome_networks_iff hselected hworkload, ?_, ⟨fun hdressed q hq hr => ?_, fun hall => ?_⟩,
    hkept, hmade⟩
  · rw [pods_of_pass hi hl]
    exact hstored
  · exact hkept q hq hr ▸ hdressed
  · by_cases hcarried : ∃ q, m.pods.find? i.metadata.key = some q ∧ q.revision? = p.pod.revision?
    · obtain ⟨q, hq, hr⟩ := hcarried
      rw [hkept q hq hr]
      exact hall q hq hr
    · rw [hmade fun q hq hr => hcarried ⟨q, hq, hr⟩]
      exact ⟨rfl, rfl, rfl⟩

/-- So it is in the sample, where the pod is made. -/
theorem drift_repaired_sample : (Sample.memory "first").Filed ∧
    (Sample.memory "first").intents.find? Sample.key = some Sample.intent ∧
    Sample.intent.metadata.isDeleted = false ∧
    ∃ wanted stored, (wanted.metadata.annotation? networksAnnotation).isSome ∧
      (({} : Engine).pass World.store (World.link Bench.connector) Sample.key default
        ⟨Sample.memory "first", {}⟩).2.memory.pods.find? Sample.key = some stored ∧
      stored.DressedAs wanted := by
  obtain ⟨driver, config, attachments, wanted, stored, hr, -, -, hn, hs, hd, -, -⟩ :=
    drift_repaired {} Bench.connector Sample.key default ⟨Sample.memory "first", {}⟩
      (Sample.filed_memory "first") (Sample.stored "first") rfl outcome_sample (.inr (.inr rfl))
  have hdriver : Driver.srLinux = driver :=
    Option.some.inj ((resolved_eq_ok_iff.1 hr).1)
  refine ⟨Sample.filed_memory "first", Sample.stored "first", rfl, wanted, stored, ?_, hs, ?_⟩
  · exact hn.2 ⟨rfl, by rw [← hdriver]; decide⟩
  · exact hd.2 fun q hq => nomatch hq

/-! ## What is not repaired -/

/-- The pods of two plans for an intent have the same revision if the driver and the configuration
are the same. -/
theorem revision_of_plans {f : Engine} {n : Memory} {p q : Plan} (hp : e.plan m i = .ok p)
    (hq : f.plan n i = .ok q) (hdriver : p.driver = q.driver) (hconfig : p.config = q.config) :
    p.pod.revision? = q.pod.revision? := by
  rw [(Driver.workload_spec (plan_eq_ok_iff.1 hp).2.2.2).2.2.2.2,
    (Driver.workload_spec (plan_eq_ok_iff.1 hq).2.2.2).2.2.2.2, hdriver, hconfig]

/-- **Settings of which the revision does not tell do not reach a pod that is there.** After a pass,
a pass of an engine that plans with the same driver and the same configuration leaves the pod as the
first has left it. -/
theorem stored_again {f : Engine} {p q : Plan} (hp : e.plan m i = .ok p) (hq : f.plan m i = .ok q)
    (hdriver : p.driver = q.driver) (hconfig : p.config = q.config) (hr : m.refusingPods = none)
    (condition : Condition) :
    (f.deployed (told i condition) (e.passed i condition m)).pods.find? i.metadata.key =
      (e.deployed i m).pods.find? i.metadata.key := by
  obtain ⟨first, hfirst, hrevision, -⟩ := stored_of_plan hp (converged_of_granted hr p i)
  have hpods : (e.passed i condition m).pods = (e.deployed i m).pods := by
    rw [passed_eq]
  have hgranted : (e.passed i condition m).refusingPods = none := by
    rw [passed_eq, deployed_eq]
    exact hr
  have hagain : f.plan (e.passed i condition m) (told i condition) = .ok q := plan_again.trans hq
  obtain ⟨second, hsecond, -, hkept, -⟩ :=
    stored_of_plan hagain (converged_of_granted hgranted q _)
  have hsame := hkept first (by rw [hpods]; exact hfirst)
    (hrevision.trans (revision_of_plans hp hq hdriver hconfig))
  exact hsecond.trans (hsame ▸ hfirst.symm)

/-- A pod that was made without attachments is left without networks, whatever engine passes. -/
theorem unwired_again {f : Engine} {p q : Plan} (hp : e.plan m i = .ok p) (hq : f.plan m i = .ok q)
    (hdriver : p.driver = q.driver) (hconfig : p.config = q.config) (hr : m.refusingPods = none)
    (hfree : m.pods.find? i.metadata.key = none) (he : e.attachNetworks = false)
    (condition : Condition) : ∃ stored,
      (f.deployed (told i condition) (e.passed i condition m)).pods.find? i.metadata.key =
        some stored ∧
      stored.status = m.initialStatus ∧ stored.metadata.annotation? networksAnnotation = none := by
  obtain ⟨-, -, hs, hw⟩ := plan_eq_ok_iff.1 hp
  obtain ⟨first, hfirst, -, -, hmade⟩ := stored_of_plan hp (converged_of_granted hr p i)
  obtain rfl := hmade fun q hq => absurd (hfree.symm.trans hq) (by simp)
  refine ⟨_, (stored_again hp hq hdriver hconfig hr condition).trans hfirst, rfl, ?_⟩
  rw [Option.eq_none_iff_forall_not_mem]
  intro text htext
  have hnetworks := ((isSome_networks_iff hs hw).1 (Option.isSome_of_mem htext)).1
  rw [he] at hnetworks
  cases hnetworks

end Engine

namespace Sample

def bare : Memory := ({} : Memory).addIntent intent

theorem resolved_bare (e : Engine) (hr : e.registry = .builtin) (hc : e.configNamespace = none) :
    e.resolved bare intent = .ok (.srLinux, emptyConfig "fabric" "srlinux.nokia.com") := by
  rw [Engine.resolved_eq_ok_iff, hr, hc]
  exact ⟨rfl, rfl, rfl⟩

def unwired : World Bench :=
  (({ attachNetworks := false } : Engine).pass World.store (World.link Bench.connector) key default
    ⟨bare, {}⟩).2

end Sample

namespace Engine

/-- **A pod that was made without its networks is left without them.** After a pass without
attachments, one with attachments ends with the workload in place, and wants a pod that selects
networks; but the stored pod does not. -/
theorem wiring_not_repaired :
    (({} : Engine).pass World.store (World.link Bench.connector) Sample.key default
      Sample.unwired).1 = .ok ⟨.awaitingReady, .after readinessDelay⟩ ∧
    ∃ i p stored, Sample.unwired.memory.intents.find? Sample.key = some i ∧
      ({} : Engine).plan Sample.unwired.memory i = .ok p ∧
      (p.pod.metadata.annotation? networksAnnotation).isSome ∧
      (({} : Engine).pass World.store (World.link Bench.connector) Sample.key default
        Sample.unwired).2.memory.pods.find? Sample.key = some stored ∧
      stored.metadata.annotation? networksAnnotation = none := by
  have hi : Sample.bare.intents.find? Sample.intent.metadata.key = some Sample.intent := rfl
  have hidentified : Sample.intent.Identified := by decide
  obtain ⟨p, hp, hd, hc⟩ := exists_plan_iff.2
    ⟨Sample.resolved_bare { attachNetworks := false } rfl rfl, hidentified⟩
  obtain ⟨q, hq, hd', hc'⟩ := exists_plan_iff.2 ⟨Sample.resolved_bare {} rfl rfl, hidentified⟩
  obtain ⟨condition, d, hunwired⟩ : ∃ condition d, Sample.unwired =
      ⟨({ attachNetworks := false } : Engine).passed Sample.intent condition Sample.bare, d⟩ := by
    have h := pass_of_live (e := { attachNetworks := false }) (i := Sample.intent)
      (m := Sample.bare) hi rfl Bench.connector default {}
    exact ⟨_, _, congrArg Prod.snd h⟩
  have hfound := find?_passed (e := { attachNetworks := false }) hi condition
  have hagain : ({} : Engine).plan (({ attachNetworks := false } : Engine).passed Sample.intent
      condition Sample.bare) (told Sample.intent condition) = .ok q := plan_again.trans hq
  obtain ⟨stored, hstored, hstatus, hnetworks⟩ :=
    unwired_again hp hq (hd.trans hd'.symm) (hc.trans hc'.symm) rfl rfl rfl condition
  -- The pod has no status yet, so the second pass waits for it.
  have hwaiting : (({} : Engine).ending Bench.connector Sample.intent.metadata.key
      (told Sample.intent condition) (({ attachNetworks := false } : Engine).passed Sample.intent
        condition Sample.bare) d).1 = .error (.waiting .noConditions) := by
    have hgranted : (({ attachNetworks := false } : Engine).passed Sample.intent condition
        Sample.bare).refusingPods = none := by
      rw [passed_eq, deployed_eq]
      rfl
    rw [ending, errand_of_waiting hagain (converged_of_granted hgranted q _)]
    rw [← deployed_of_plan hagain, hstored, podAddresses, Pod.addresses, hstatus]
    rfl
  have hpass := pass_of_live (e := {}) hfound rfl Bench.connector default d
  rw [hwaiting] at hpass
  obtain ⟨-, -, hs, hw⟩ := plan_eq_ok_iff.1 hq
  rw [hunwired]
  refine ⟨congrArg Prod.fst hpass, told Sample.intent condition, q, stored, hfound, hagain,
    (isSome_networks_iff hs hw).2 ⟨rfl, by rw [hd']; decide⟩, ?_, hnetworks⟩
  have hpods := pods_of_pass (e := {}) hfound rfl Bench.connector default d
  exact (congrArg (·.find? Sample.key) hpods).trans hstored

end Engine

end NodeDeploy
