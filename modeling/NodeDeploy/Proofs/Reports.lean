import NodeDeploy.Proofs.Course

/-! # What an intent reports

The ready condition of an intent is what its owner sees of a pass, and the outcome is what decides
when the next pass shall be. Both are made from how the pass ended, at many places, so the question
is whether they always agree.

* `Agrees` is the relation between the end of a pass, its outcome and what is reported.
* `Engine.ended` is how a pass over an intent ends: with its release, or on the way to a ready node.
* `pass_reports`: the outcome and the stored condition agree with the end of the pass, and the
  status is written exactly if the intent has reported something else before.
-/

namespace NodeDeploy

/-! ## Reports -/

/-- The state of a condition: all of it but its type and its time. -/
structure ConditionState where
  status : ConditionStatus
  reason : ConditionReason
  message : String
  deriving DecidableEq, Repr

def Condition.state (c : Condition) : ConditionState := ⟨c.status, c.reason, c.message⟩

theorem Condition.sameState_iff_state {a b : Condition} (h : a.type = b.type) :
    a.sameState b = true ↔ a.state = b.state := by
  rw [sameState_iff, state, state, ConditionState.mk.injEq]
  exact ⟨fun g => g.2, fun g => ⟨h, g⟩⟩

namespace NodeIntent

/-- The state of the ready condition of an intent, if there is one: what the intent reports. -/
def readyState? (i : NodeIntent) : Option ConditionState := i.readyCondition?.map Condition.state

/-- A condition has to be written exactly if something else is reported. -/
theorem changedBy_eq_false_iff {i : NodeIntent} {c : Condition} (hc : c.type = .ready) :
    i.statusOrEmpty.changedBy c = false ↔ i.readyState? = some c.state := by
  have hready : i.readyCondition? = i.statusOrEmpty.condition? c.type := by
    rw [readyCondition?, statusOrEmpty, hc]
    rcases i.status with _ | s <;> rfl
  rw [readyState?, hready, NodeIntentStatus.changedBy, changesCondition,
    NodeIntentStatus.condition?]
  generalize hfound : List.find? _ i.statusOrEmpty.conditions = found
  rcases found with _ | d
  · simp
  · have hd := List.find?_some hfound
    have htype : d.type = c.type := of_decide_eq_true hd
    simp [← Condition.sameState_iff_state htype]

theorem readyState?_of_statusTelling {i j : NodeIntent} {c : Condition} (hc : c.type = .ready)
    (h : j.status = i.statusTelling c) : j.readyState? = some c.state := by
  obtain ⟨d, hd, hs⟩ := i.exists_condition?_statusTelling c
  have hready : j.readyCondition? = some d := by
    rw [← hd, readyCondition?, h, hc]
    rcases i.statusTelling c with _ | s <;> rfl
  rw [readyState?, hready, Option.map_some,
    (Condition.sameState_iff_state (Condition.sameState_iff.1 hs).1).1 hs]

end NodeIntent

/-- A failed step stops a pass in a phase of its own, which is neither the first nor one that a
pass may stop in without a failure. -/
def StepPhase (phase : Phase) : Prop :=
  phase ≠ .fetching ∧ phase ≠ .awaitingReady ∧ phase ≠ .ready

instance (phase : Phase) : Decidable (StepPhase phase) := inferInstanceAs (Decidable (_ ∧ _ ∧ _))

/-- The phases before the workload is there. -/
def EarlyPhase (phase : Phase) : Prop :=
  phase = .resolving ∨ phase = .attaching ∨ phase = .converging

instance (phase : Phase) : Decidable (EarlyPhase phase) := inferInstanceAs (Decidable (_ ∨ _ ∨ _))

theorem EarlyPhase.stepPhase {phase : Phase} (h : EarlyPhase phase) : StepPhase phase := by
  rcases h with rfl | rfl | rfl <;> decide

/-- The end of a pass, its outcome and the reported state agree, given the pod that is stored
afterwards. -/
inductive Agrees (pod? : Option Pod) : Except Stop Unit → Outcome → ConditionState → Prop where
  /-- A ready node, whose workload can be reached, waits for a change. -/
  | ready {addresses : List String} (h : podAddresses pod? = .ok addresses) :
    Agrees pod? (.ok ()) ⟨.ready, .never⟩ ⟨.holds, .ready, ""⟩
  /-- A workload that cannot be reached is looked at again in five seconds. -/
  | waiting {reason : Unready} (h : podAddresses pod? = .error reason) :
    Agrees pod? (.error (.waiting reason)) ⟨.awaitingReady, .after (.ofSeconds 5)⟩
      ⟨.fails, .unknown, reason.message⟩
  /-- A failure is retried at once if another try may help, and waits for a change otherwise. -/
  | failed {phase : Phase} {failure : Failure} {requeue : Requeue}
    (hphase : StepPhase phase)
    (hretried : requeue = .immediate ↔ phase = .bootstrapping ∨ phase = .finalizing ∨
      (∃ error, failure = .store error) ∨ ∃ error, failure = .cluster error)
    (hkept : requeue ≠ .immediate → requeue = .never) :
    Agrees pod? (.error (.failed phase failure)) ⟨phase, requeue⟩
      ⟨.fails, .failed, failure.message⟩

theorem Failure.isStoreTrouble_iff {f : Failure} : f.isStoreTrouble = true ↔
    (∃ error, f = .store error) ∨ ∃ error, f = .cluster error := by
  cases f <;> simp [isStoreTrouble]

theorem agrees_of_failed (pod? : Option Pod) {phase : Phase} (failure : Failure) (now : Instant)
    (hphase : StepPhase phase) :
    Agrees pod? (.error (.failed phase failure)) (endOutcome (.error (.failed phase failure)))
      (endCondition now (.error (.failed phase failure))).state := by
  refine .failed hphase ?_ ?_
  · rw [Requeue.afterFailure, ← Failure.isStoreTrouble_iff]
    split
    · next h => exact ⟨fun _ => h, fun _ => rfl⟩
    · next h => exact ⟨fun g => (nomatch g), fun g => absurd g h⟩
  · rw [Requeue.afterFailure]
    split
    · exact fun h => absurd rfl h
    · exact fun _ => rfl

namespace Engine

variable {δ : Type} {e : Engine} {c : Connector δ} {key : ObjectKey} {i : NodeIntent} {m : Memory}

/-! ## The ends of a pass -/

/-- How a pass over an intent ends: with its release if it is being deleted, and else on the way to
a ready node. -/
def ended (e : Engine) (c : Connector δ) (key : ObjectKey) (i : NodeIntent) (w : World δ) :
    Except Stop Unit :=
  if i.metadata.isDeleted then
    (w.memory.removeFinalizer i intentFinalizer).1.mapError fun error =>
      .failed .finalizing (.store error)
  else (e.deploy World.store (World.link c) key i w).1

theorem plan_error {stop : Stop} (h : e.plan m i = .error stop) :
    ∃ phase failure, stop = .failed phase failure ∧ EarlyPhase phase := by
  simp only [plan, bind_eq_error_iff, mapError_eq_error_iff] at h
  rcases h with ⟨f, -, rfl⟩ | ⟨_, -, h⟩
  · exact ⟨_, f, rfl, by decide⟩
  rcases h with ⟨f, -, rfl⟩ | ⟨_, -, h⟩
  · exact ⟨_, f, rfl, by decide⟩
  rcases h with ⟨f, -, rfl⟩ | ⟨_, -, h⟩
  · exact ⟨_, f, rfl, by decide⟩
  rcases h with ⟨f, -, rfl⟩ | ⟨_, -, h⟩
  · exact ⟨_, f, rfl, by decide⟩
  · cases h

/-- **Where the way to a ready node ends before the device**: it waits for the stored pod, or a
step failed. -/
theorem errand_error {stop : Stop} (h : e.errand key i m = .error stop) :
    (∃ reason, stop = .waiting reason ∧
      podAddresses ((e.deployed i m).pods.find? key) = .error reason) ∨
    ∃ phase failure, stop = .failed phase failure ∧ StepPhase phase := by
  simp only [errand, bind_eq_error_iff, mapError_eq_error_iff] at h
  rcases h with h | ⟨_, -, ⟨f, -, rfl⟩ | ⟨_, -, ⟨reason, h, rfl⟩ | ⟨_, -, f, -, rfl⟩⟩⟩
  · obtain ⟨phase, failure, rfl, hphase⟩ := plan_error h
    exact .inr ⟨phase, failure, rfl, hphase.stepPhase⟩
  · exact .inr ⟨_, _, rfl, by decide⟩
  · exact .inl ⟨reason, rfl, h⟩
  · exact .inr ⟨_, _, rfl, by decide⟩

/-- The device is come to only if the stored pod can be reached. -/
theorem exists_addresses_of_errand {r : Option Errand} (h : e.errand key i m = .ok r) :
    ∃ addresses, podAddresses ((e.deployed i m).pods.find? key) = .ok addresses := by
  simp only [errand, bind_eq_ok_iff, mapError_eq_ok_iff] at h
  obtain ⟨_, -, _, -, addresses, haddresses, -⟩ := h
  exact ⟨addresses, haddresses⟩

/-- **The end of the way to a ready node, its outcome and the reported state agree.** -/
theorem agrees_ending (e : Engine) (c : Connector δ) (key : ObjectKey) (i : NodeIntent) (m : Memory)
    (d : δ) (now : Instant) :
    Agrees ((e.deployed i m).pods.find? key) (e.ending c key i m d).1
      (endOutcome (e.ending c key i m d).1) (endCondition now (e.ending c key i m d).1).state := by
  rw [ending]
  rcases he : e.errand key i m with stop | errand
  · rcases errand_error he with ⟨reason, rfl, hr⟩ | ⟨phase, failure, rfl, hp⟩
    · exact .waiting hr
    · exact agrees_of_failed _ failure now hp
  · dsimp only
    rcases (runErrand c errand d).1 with error | _
    · exact agrees_of_failed _ _ now (by decide)
    · obtain ⟨addresses, haddresses⟩ := exists_addresses_of_errand he
      exact .ready haddresses

/-! ## What is written -/

theorem endCondition_type (now : Instant) (ended : Except Stop Unit) :
    (endCondition now ended).type = .ready := by
  rcases ended with (_ | _) | _ <;> rfl

/-- The status is written exactly if something else was reported. -/
theorem statusWrites_recorded {condition : Condition} (hc : condition.type = .ready) (m : Memory) :
    (m.recorded i condition).statusWrites =
      m.statusWrites + if i.readyState? = some condition.state then 0 else 1 := by
  simp only [Memory.recorded, ← NodeIntent.changedBy_eq_false_iff hc]
  cases i.statusOrEmpty.changedBy condition <;> rfl

/-- **An intent reports the truth about a pass.** Whatever is stored, and whatever the store and the
device refuse, a pass over an intent that is not released ends with an outcome and a stored ready
condition that agree with the end of the pass. The status is written at most once, and exactly if
the intent has reported something else before. -/
theorem pass_reports (e : Engine) (c : Connector δ) (key : ObjectKey) (now : Instant) (w : World δ)
    {i : NodeIntent} (hw : w.memory.Filed) (hi : w.memory.intents.find? key = some i)
    (hkept : i.metadata.isDeleted = true →
      (w.memory.removeFinalizer i intentFinalizer).1 ≠ .ok ()) :
    ∃ outcome v j state,
      e.pass World.store (World.link c) key now w = (.ok outcome, v) ∧
      v.memory.intents.find? key = some j ∧ j.readyState? = some state ∧
      Agrees (v.memory.pods.find? key) (e.ended c key i w) outcome state ∧
      v.memory.statusWrites =
        w.memory.statusWrites + if i.readyState? = some state then 0 else 1 := by
  obtain ⟨m, d⟩ := w
  obtain rfl := hw.intents key i hi
  cases hl : i.metadata.isDeleted with
  | false =>
    have hended : e.ended c i.metadata.key i ⟨m, d⟩ = (e.ending c i.metadata.key i m d).1 := by
      rw [ended, hl, deploy_eq]
      rfl
    have hstored := Memory.find?_recorded (endCondition now (e.ending c i.metadata.key i m d).1)
      (find?_deployed (e := e) hi) rfl
    refine ⟨_, _, _, _, pass_of_live hi hl c now d, hstored,
      NodeIntent.readyState?_of_statusTelling (endCondition_type now _) rfl, ?_, ?_⟩
    · rw [hended, Memory.recorded_eq]
      exact agrees_ending e c i.metadata.key i m d now
    · rw [statusWrites_recorded (endCondition_type now _), deployed_eq]
  | true =>
    obtain ⟨message, hr⟩ : ∃ message, m.refusingRelease = some message := by
      rcases Option.eq_none_or_eq_some m.refusingRelease with hr | hr
      · exact absurd (Memory.removeFinalizer_of_granted hr i intentFinalizer) (hkept hl)
      · exact hr
    have hended : e.ended c i.metadata.key i ⟨m, d⟩ =
        .error (.failed .finalizing (.store (.backend message))) := by
      rw [ended, hl, Memory.removeFinalizer_of_refused hr]
      rfl
    refine ⟨_, _, _, _, pass_of_kept hi hl hr c now d, Memory.find?_recorded _ hi rfl,
      NodeIntent.readyState?_of_statusTelling (endCondition_type now _) rfl, ?_,
      statusWrites_recorded (endCondition_type now _) m⟩
    rw [hended]
    exact agrees_of_failed _ _ now (by decide)

theorem pass_reports_sample : (Sample.memory "first").Filed ∧
    (Sample.memory "first").intents.find? Sample.key = some Sample.intent ∧
    (Sample.intent.metadata.isDeleted = true →
      ((Sample.memory "first").removeFinalizer Sample.intent intentFinalizer).1 ≠ .ok ()) ∧
    ∃ outcome v j state,
      ({} : Engine).pass World.store (World.link Bench.connector) Sample.key default
        ⟨Sample.memory "first", {}⟩ = (.ok outcome, v) ∧
      v.memory.intents.find? Sample.key = some j ∧ j.readyState? = some state ∧
      Agrees (v.memory.pods.find? Sample.key) (({} : Engine).ended Bench.connector Sample.key
        Sample.intent ⟨Sample.memory "first", {}⟩) outcome state ∧
      v.memory.statusWrites = (Sample.memory "first").statusWrites +
        if Sample.intent.readyState? = some state then 0 else 1 := by
  have hkept : Sample.intent.metadata.isDeleted = true →
      ((Sample.memory "first").removeFinalizer Sample.intent intentFinalizer).1 ≠ .ok () := by
    intro h
    cases h
  exact ⟨Sample.filed_memory "first", Sample.stored "first", hkept,
    pass_reports {} Bench.connector Sample.key default ⟨Sample.memory "first", {}⟩
      (Sample.filed_memory "first") (Sample.stored "first") hkept⟩

end Engine

end NodeDeploy
