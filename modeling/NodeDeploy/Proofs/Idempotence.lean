import NodeDeploy.Proofs.Course

/-! # Idempotence of passes

Each write of a pass is made only if something is missing, and what one pass writes is not missing
for the next. So a second pass ends as the first did and writes nothing, wherever the first ended:
for want of a configuration, at a refused pod, before a workload that is not ready, on the device,
or at a ready node.

* `deployed_again`: on the way to a ready node, nothing is left to be written.
* `errand_again`: the same is left to be done on the device.
* `pass_idempotent`: a second pass has the outcome of the first and leaves the memory as it is.
-/

namespace NodeDeploy

namespace Engine

variable {e : Engine} {key : ObjectKey} {i : NodeIntent} {m : Memory} {condition : Condition}

/-- The memory after a pass over an intent that tells a condition. -/
def passed (e : Engine) (i : NodeIntent) (condition : Condition) (m : Memory) : Memory :=
  (e.deployed i m).recorded i condition

def told (i : NodeIntent) (condition : Condition) : NodeIntent :=
  { i.guarded with status := i.statusTelling condition }

/-- Where the memory after a pass is that after the way to a ready node. -/
theorem passed_eq (e : Engine) (i : NodeIntent) (condition : Condition) (m : Memory) :
    e.passed i condition m =
      { e.deployed i m with
        intents := (e.passed i condition m).intents
        statusWrites := (e.passed i condition m).statusWrites } :=
  Memory.recorded_eq i condition (e.deployed i m)

theorem find?_passed (h : m.intents.find? i.metadata.key = some i) (condition : Condition) :
    (e.passed i condition m).intents.find? i.metadata.key = some (told i condition) :=
  Memory.find?_recorded condition (find?_deployed h) rfl

/-! ## The second way to a ready node -/

/-- An engine plans the same after a pass, be it of that engine or of another. -/
theorem plan_again {f : Engine} :
    f.plan (e.passed i condition m) (told i condition) = f.plan m i := by
  have hconfigs : (e.passed i condition m).configs = m.configs := by
    rw [passed_eq, deployed_eq]
  rw [plan_congr hconfigs]
  exact plan_withStatus m i _ _

theorem prepared_again {p : Plan} (hp : e.plan m i = .ok p)
    (h : m.intents.find? i.metadata.key = some i) :
    p.prepared (told i condition) (e.passed i condition m) = e.passed i condition m := by
  obtain ⟨-, -, ha, -⟩ := plan_eq_ok_iff.1 hp
  have hdeployed := deployed_of_plan hp
  rw [Memory.convergePod_eq] at hdeployed
  have hkey : (told i condition).metadata.key = i.metadata.key := rfl
  have hguarded : (e.passed i condition m).addFinalizer (told i condition) intentFinalizer =
      e.passed i condition m :=
    Memory.addFinalizer_eq_self (find?_passed h condition) (Memory.withFinalizer_idem _ _)
  have hclaims : (e.passed i condition m).claims =
      ((m.addFinalizer i intentFinalizer).applyClaims p.claims).claims := by
    rw [passed_eq, hdeployed, Plan.prepared, Memory.applyAttachments_eq]
  have hattachments : (e.passed i condition m).attachments =
      (((m.addFinalizer i intentFinalizer).applyClaims p.claims).applyAttachments
        p.attachments).attachments := by
    rw [passed_eq, hdeployed, Plan.prepared]
  rw [Plan.prepared, hguarded, Memory.applyClaims_again hclaims]
  exact Memory.applyAttachments_again hattachments fun a hx b hy => selected_injective ha hx hy

theorem convergePod_after {p : Plan} (hp : e.plan m i = .ok p) :
    (e.passed i condition m).convergePod p.pod =
      (((p.prepared i m).convergePod p.pod).1, e.passed i condition m) := by
  refine Memory.convergePod_again ?_ ?_
  · rw [passed_eq, deployed_of_plan hp]
  · rw [passed_eq, deployed_eq, Plan.prepared_eq]

/-- **On the second way to a ready node nothing is left to be written.** -/
theorem deployed_again (h : m.intents.find? i.metadata.key = some i) :
    e.deployed (told i condition) (e.passed i condition m) = e.passed i condition m := by
  rcases hp : e.plan m i with stop | p
  · rw [deployed, plan_again, hp]
    exact Memory.addFinalizer_eq_self (find?_passed h condition) (Memory.withFinalizer_idem _ _)
  · have hagain : e.plan (e.passed i condition m) (told i condition) = .ok p := by
      rw [plan_again, hp]
    rw [deployed_of_plan hagain, prepared_again hp h, convergePod_after hp]

/-- **The same is left to be done on the device.** -/
theorem errand_again (h : m.intents.find? i.metadata.key = some i) :
    e.errand key (told i condition) (e.passed i condition m) = e.errand key i m := by
  rcases hp : e.plan m i with stop | p
  · have hagain : e.plan (e.passed i condition m) (told i condition) = .error stop := by
      rw [plan_again, hp]
    rw [errand_of_no_plan hagain, errand_of_no_plan hp]
  · have hagain : e.plan (e.passed i condition m) (told i condition) = .ok p := by
      rw [plan_again, hp]
    have hpods : (e.passed i condition m).pods = ((p.prepared i m).convergePod p.pod).2.pods := by
      rw [passed_eq, deployed_of_plan hp]
    have hsecrets : (e.passed i condition m).secrets = m.secrets := by
      rw [passed_eq, deployed_eq]
    rw [errand_of_plan hagain, errand_of_plan hp, prepared_again hp h, convergePod_after hp]
    simp only [hpods, errandTo_congr hsecrets]
    rfl

/-! ## Two passes -/

variable {δ : Type} {c : Connector δ}

theorem sameState_endCondition (ended : Except Stop Unit) (now later : Instant) :
    (endCondition now ended).sameState (endCondition later ended) = true := by
  rcases ended with (_ | _) | _ <;> exact Condition.sameState_iff.2 ⟨rfl, rfl, rfl, rfl⟩

/-- What was told is not told again, whatever the time. -/
theorem recorded_again (i : NodeIntent) (ended : Except Stop Unit) (now later : Instant)
    (m : Memory) :
    m.recorded (told i (endCondition now ended)) (endCondition later ended) = m := by
  refine Memory.recorded_eq_self ?_ m
  exact NodeIntent.changedBy_statusTelling (sameState_endCondition ended now later) i

/-- A second pass that ends as the first did leaves the memory as it is. -/
theorem pass_again {ended : Except Stop Unit} {now : Instant}
    (h : m.intents.find? i.metadata.key = some i) (hl : i.metadata.isDeleted = false) {d : δ}
    (hend : (e.ending c i.metadata.key (told i (endCondition now ended))
      (e.passed i (endCondition now ended) m) d).1 = ended) (later : Instant) :
    ∃ d', e.pass World.store (World.link c) i.metadata.key later
        ⟨e.passed i (endCondition now ended) m, d⟩ =
      (.ok (endOutcome ended), ⟨e.passed i (endCondition now ended) m, d'⟩) := by
  have hstored := find?_passed (e := e) h (endCondition now ended)
  have hpass := pass_of_live (e := e) hstored hl c later d
  rw [hend, deployed_again h, recorded_again] at hpass
  exact ⟨_, hpass⟩

/-- An errand on a bench ends as it would have ended before another errand. -/
theorem runErrand_again (first second : Option Errand) (b : Bench) :
    (runErrand Bench.connector second (runErrand Bench.connector first b).2).1 =
      (runErrand Bench.connector second b).1 := by
  rcases second with _ | s
  · rfl
  rcases first with _ | r
  · rfl
  simp only [runErrand]
  rw [(Bench.run_script s.target s.script _).1, (Bench.run_script s.target s.script b).1]
  exact (Bench.run_script r.target r.script b).2.verdict_eq s.script

/-- **Passes are idempotent.** After a pass over an intent that is not being deleted, a second pass
has the same outcome and leaves the whole memory as it is, with its times and its numbers of writes.
Nothing is assumed of what is stored but that it is stored under its own key, and nothing at all of
what the store and the device are told to refuse. -/
theorem pass_idempotent (e : Engine) (key : ObjectKey) (now later : Instant) (w : World Bench)
    (hw : w.memory.Filed)
    (hl : ∀ i, w.memory.intents.find? key = some i → i.metadata.isDeleted = false) :
    ∃ outcome first second,
      e.pass World.store (World.link Bench.connector) key now w = (.ok outcome, first) ∧
      e.pass World.store (World.link Bench.connector) key later first = (.ok outcome, second) ∧
      second.memory = first.memory := by
  obtain ⟨m, b⟩ := w
  rcases Option.eq_none_or_eq_some (m.intents.find? key) with hi | ⟨i, hi⟩
  · exact ⟨_, _, _, pass_of_missing hi _ now b, pass_of_missing hi _ later b, rfl⟩
  obtain rfl := hw.intents key i hi
  have hfirst := pass_of_live (e := e) hi (hl i hi) Bench.connector now b
  have hend : (e.ending Bench.connector i.metadata.key
      (told i (endCondition now (e.ending Bench.connector i.metadata.key i m b).1))
      (e.passed i (endCondition now (e.ending Bench.connector i.metadata.key i m b).1) m)
      (e.ending Bench.connector i.metadata.key i m b).2).1 =
      (e.ending Bench.connector i.metadata.key i m b).1 := by
    rw [ending, errand_again hi, ending]
    rcases e.errand i.metadata.key i m with stop | errand
    · rfl
    · simp only [runErrand_again]
  obtain ⟨d, hsecond⟩ := pass_again hi (hl i hi) hend later
  exact ⟨_, _, _, hfirst, hsecond, rfl⟩

/-- So it is where the device rejects a command. -/
theorem pass_idempotent_rejected : (Sample.memory "first").Filed ∧
    (∀ i, (Sample.memory "first").intents.find? Sample.key = some i →
      i.metadata.isDeleted = false) ∧
    ∃ outcome first second,
      ({} : Engine).pass World.store (World.link Bench.connector) Sample.key default
        ⟨Sample.memory "first", { rejecting := some "gnmi-server" }⟩ = (.ok outcome, first) ∧
      ({} : Engine).pass World.store (World.link Bench.connector) Sample.key default first =
        (.ok outcome, second) ∧
      second.memory = first.memory := by
  have hl : ∀ i, (Sample.memory "first").intents.find? Sample.key = some i →
      i.metadata.isDeleted = false := by
    intro i hi
    obtain rfl : Sample.intent = i := Option.some.inj ((Sample.stored "first").symm.trans hi)
    rfl
  exact ⟨Sample.filed_memory "first", hl, pass_idempotent {} Sample.key default default
    ⟨Sample.memory "first", { rejecting := some "gnmi-server" }⟩ (Sample.filed_memory "first") hl⟩

end Engine

end NodeDeploy
