import NodeDeploy.Resource.Metadata

/-! # Conditions

A condition says whether something holds of an object, why, and since when. The only condition kept
of a node intent is `Ready`. A list holds at most one condition of a type when it is filled through
`setCondition`.

* `Condition.sameState` compares all but the time;
* `setCondition_eq_self`: setting a condition changes nothing when the stored condition
  of its type is in the same state;
* `exists_find?_setCondition`: afterwards the condition of its type is in the state that was set.
-/

namespace NodeDeploy

inductive ConditionType where
  /-- Overall readiness of the node. -/
  | ready
  deriving DecidableEq, Repr, Inhabited

inductive ConditionStatus where
  | holds
  | fails
  | undetermined
  deriving DecidableEq, Repr, Inhabited

inductive ConditionReason where
  /-- The node is bootstrapped and serving. -/
  | ready
  /-- A step of the deployment failed; the message tells which. -/
  | failed
  /-- The workload is being waited for. -/
  | unknown
  deriving DecidableEq, Repr, Inhabited

structure Condition where
  type : ConditionType
  status : ConditionStatus
  reason : ConditionReason
  message : String
  lastTransitionTime : Instant
  deriving DecidableEq, Repr, Inhabited

def ConditionType.word : ConditionType → String
  | .ready => "Ready"

def ConditionType.ofWord? (s : String) : Option ConditionType :=
  if s = "Ready" then some .ready else none

def ConditionStatus.word : ConditionStatus → String
  | .holds => "True"
  | .fails => "False"
  | .undetermined => "Unknown"

def ConditionStatus.ofWord? (s : String) : Option ConditionStatus :=
  if s = "True" then some .holds
  else if s = "False" then some .fails
  else if s = "Unknown" then some .undetermined
  else none

def ConditionReason.word : ConditionReason → String
  | .ready => "Ready"
  | .failed => "Failed"
  | .unknown => "Unknown"

def ConditionReason.ofWord? (s : String) : Option ConditionReason :=
  if s = "Ready" then some .ready
  else if s = "Failed" then some .failed
  else if s = "Unknown" then some .unknown
  else none

namespace Condition

def ready (now : Instant) : Condition := ⟨.ready, .holds, .ready, "", now⟩

/-- The node is not ready, since `now`, because something failed. -/
def failed (message : String) (now : Instant) : Condition := ⟨.ready, .fails, .failed, message, now⟩

/-- The node is not ready, since `now`, because its workload is not. -/
def unknown (message : String) (now : Instant) : Condition :=
  ⟨.ready, .fails, .unknown, message, now⟩

/-- Whether two conditions agree in all but the time. -/
def sameState (a b : Condition) : Bool :=
  a.type == b.type && a.status == b.status && a.reason == b.reason && a.message == b.message

def toJson (c : Condition) : Json := .record [
  ("type", some (.str c.type.word)),
  ("status", some (.str c.status.word)),
  ("reason", some (.str c.reason.word)),
  ("message", some (.str c.message)),
  ("lastTransitionTime", some (.str c.lastTransitionTime.text))]

def ofJson? (j : Json) : Option Condition := do
  let m ← j.readRecord ["type", "status", "reason", "message", "lastTransitionTime"] 5
  some {
    type := ← Json.required m "type" (Json.readWord ConditionType.ofWord?)
    status := ← Json.required m "status" (Json.readWord ConditionStatus.ofWord?)
    reason := ← Json.required m "reason" (Json.readWord ConditionReason.ofWord?)
    message := ← Json.defaulted m "message" Json.readString ""
    lastTransitionTime := ← Json.required m "lastTransitionTime" Metadata.readInstant }

end Condition

/-- What setting `c` does to the first condition of its type, or to the end of the list if there is
none. A condition in the same state stays as it is, and one of the same status keeps its time. -/
def setCondition (c : Condition) : List Condition → List Condition
  | [] => [c]
  | d :: rest =>
    if d.type = c.type then
      if d.sameState c then d :: rest
      else if d.status = c.status then { c with lastTransitionTime := d.lastTransitionTime } :: rest
      else c :: rest
    else d :: setCondition c rest

def changesCondition (c : Condition) (l : List Condition) : Bool :=
  match l.find? fun d => d.type = c.type with
  | some d => !d.sameState c
  | none => true

theorem setCondition_eq_self {c : Condition} {l : List Condition}
    (h : changesCondition c l = false) : setCondition c l = l := by
  induction l with
  | nil => simp [changesCondition] at h
  | cons d rest ih =>
    rw [setCondition]
    by_cases ht : d.type = c.type
    · have hs : d.sameState c = true := by simpa [changesCondition, ht] using h
      simp [ht, hs]
    · rw [if_neg ht, ih]
      rwa [changesCondition, List.find?_cons_of_neg (by rwa [decide_eq_true_eq])] at h

theorem Condition.sameState_iff {a b : Condition} : a.sameState b = true ↔
    a.type = b.type ∧ a.status = b.status ∧ a.reason = b.reason ∧ a.message = b.message := by
  simp [sameState, and_assoc]

/-- What is set is found, up to the time. -/
theorem exists_find?_setCondition (c : Condition) (l : List Condition) :
    ∃ d, (setCondition c l).find? (fun d => d.type = c.type) = some d ∧ d.sameState c = true := by
  induction l with
  | nil => exact ⟨c, by simp [setCondition], Condition.sameState_iff.2 ⟨rfl, rfl, rfl, rfl⟩⟩
  | cons d rest ih =>
    rw [setCondition]
    split
    · next ht =>
      split
      · next hs => exact ⟨d, List.find?_cons_of_pos (by simp), hs⟩
      · split
        · next hstatus =>
          refine ⟨_, List.find?_cons_of_pos (by simp), ?_⟩
          exact Condition.sameState_iff.2 ⟨rfl, rfl, rfl, rfl⟩
        · refine ⟨c, List.find?_cons_of_pos (by simp), ?_⟩
          exact Condition.sameState_iff.2 ⟨rfl, rfl, rfl, rfl⟩
    · next ht =>
      obtain ⟨x, hx, hs⟩ := ih
      refine ⟨x, ?_, hs⟩
      rw [List.find?_cons_of_neg (by rwa [decide_eq_true_eq])]
      exact hx

/-- Setting the state that was set changes nothing. -/
theorem changesCondition_setCondition {c d : Condition} (h : c.sameState d = true)
    (l : List Condition) : changesCondition d (setCondition c l) = false := by
  obtain ⟨x, hx, hs⟩ := exists_find?_setCondition c l
  obtain ⟨ht, hstatus, hreason, hmessage⟩ := Condition.sameState_iff.1 h
  obtain ⟨ht', hstatus', hreason', hmessage'⟩ := Condition.sameState_iff.1 hs
  rw [changesCondition, ← ht, hx]
  have hxd : x.sameState d = true := Condition.sameState_iff.2 ⟨ht'.trans ht,
    hstatus'.trans hstatus, hreason'.trans hreason, hmessage'.trans hmessage⟩
  simp [hxd]

end NodeDeploy
