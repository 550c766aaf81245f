import Mathlib.Data.List.DropRight
import NodeDeploy.Resource.NodeIntent

/-! # Since when a condition has held

The condition that is kept after many were set, one after the other, told by their history alone,
which starts with the condition that was there before, if any: the last one counts, and the time is
that of the first one of the longest run at the end in which the status stays the same.

* `lastRun` is that run, and `kept?` the condition that a history leaves.
* `setCondition_kept?`: what one step does.
* `NodeIntentStatus.conditions_setAll`: what all of them do.
* `history_kept` is the result.
-/

namespace NodeDeploy

/-! ## Histories -/

/-- The longest run of conditions of a status at the end of a history. -/
def lastRun (status : ConditionStatus) (history : List Condition) : List Condition :=
  history.rtakeWhile fun c => c.status = status

/-- A condition goes on with the run of its status, and is the first of it if there was none. -/
theorem head?_lastRun_concat_self (history : List Condition) (c : Condition) :
    (lastRun c.status (history ++ [c])).head? =
      some ((lastRun c.status history).head?.getD c) := by
  rw [lastRun, List.rtakeWhile_concat_pos _ _ _ (by simp), ← lastRun, List.head?_append]
  cases (lastRun c.status history).head? <;> rfl

/-- A condition of another status ends a run. -/
theorem lastRun_concat_ne {status : ConditionStatus} {c : Condition} (h : c.status ≠ status)
    (history : List Condition) : lastRun status (history ++ [c]) = [] := by
  rw [lastRun, List.rtakeWhile_concat_neg _ _ _ (by simpa using h)]

/-- The condition that a history leaves: the last one, since the time of the first one of its
run. -/
def kept? (history : List Condition) : Option Condition :=
  history.getLast?.map fun c =>
    { c with lastTransitionTime :=
        ((lastRun c.status history).head?.getD c).lastTransitionTime }

theorem kept?_concat (history : List Condition) (c : Condition) :
    kept? (history ++ [c]) = some { c with lastTransitionTime :=
      ((lastRun c.status history).head?.getD c).lastTransitionTime } := by
  rw [kept?, List.getLast?_concat, Option.map_some, head?_lastRun_concat_self, Option.getD_some]

/-! ## Setting conditions -/

/-- There is only one type of conditions. -/
theorem Condition.type_eq (c : Condition) : c.type = .ready := by cases c.type; rfl

/-- Setting a condition where one is kept. -/
theorem setCondition_singleton (c d : Condition) :
    setCondition c [d] = [{ c with lastTransitionTime :=
      if d.status = c.status then d.lastTransitionTime else c.lastTransitionTime }] := by
  rw [setCondition, if_pos (d.type_eq.trans c.type_eq.symm)]
  split
  · next hsame =>
    obtain ⟨htype, hstatus, hreason, hmessage⟩ := Condition.sameState_iff.1 hsame
    rw [if_pos hstatus, ← htype, ← hstatus, ← hreason, ← hmessage]
  · split <;> rfl

/-- **One step**: a condition that is set where a history left one leaves what the longer history
leaves. -/
theorem setCondition_kept? (history : List Condition) (c : Condition) :
    setCondition c (kept? history).toList = (kept? (history ++ [c])).toList := by
  rw [kept?_concat]
  induction history using List.reverseRecOn with
  | nil => rfl
  | append_singleton earlier d _ =>
    rw [kept?_concat, Option.toList_some, setCondition_singleton, Option.toList_some]
    dsimp only
    split
    · next hstatus =>
      rw [← hstatus, head?_lastRun_concat_self, Option.getD_some]
    · next hstatus =>
      rw [lastRun_concat_ne hstatus]
      rfl

namespace NodeIntentStatus

def setAll (s : NodeIntentStatus) (applied : List Condition) : NodeIntentStatus :=
  applied.foldl set s

theorem setAll_concat (s : NodeIntentStatus) (applied : List Condition) (c : Condition) :
    s.setAll (applied ++ [c]) = (s.setAll applied).set c := by
  simp [setAll]

/-- **All steps**: the conditions that are there are the one that the history leaves. -/
theorem conditions_setAll {s : NodeIntentStatus} (h : s.conditions.length ≤ 1)
    (applied : List Condition) :
    (s.setAll applied).conditions = (kept? (s.conditions ++ applied)).toList := by
  induction applied using List.reverseRecOn with
  | nil =>
    rw [List.append_nil, setAll, List.foldl_nil]
    match s.conditions, h with
    | [], _ => rfl
    | [d], _ => exact (congrArg Option.toList (kept?_concat [] d)).symm
  | append_singleton earlier c ih =>
    rw [setAll_concat, set, ih, setCondition_kept?, List.append_assoc]

/-- Setting a condition is no change exactly when the one of its type agrees with it in all but the
time. -/
theorem changedBy_eq_false_iff {s : NodeIntentStatus} {c : Condition} :
    s.changedBy c = false ↔ ∃ d, s.condition? .ready = some d ∧
      d.status = c.status ∧ d.reason = c.reason ∧ d.message = c.message := by
  have hfind : (s.conditions.find? fun d => d.type = c.type) = s.condition? .ready := by
    rw [condition?, c.type_eq]
  rw [changedBy, changesCondition, hfind]
  rcases s.condition? .ready with _ | d
  · simp
  · simp [Condition.sameState, d.type_eq, c.type_eq, and_assoc]

end NodeIntentStatus

/-- **The history of a condition.** Conditions are set, one after the other and with any times, in a
status that holds at most one. After each of them the status holds exactly one, which has the
status, the reason and the message of the last one that was set, and the time of the first one of
the longest run of its status at the end of the history, in which the condition that was there at
the start comes first. Setting a condition is reported as no change exactly when its status, reason
and message are those of the stored one, and then all stays as it is. -/
theorem history_kept {s : NodeIntentStatus}
    (h : (s.conditions.filter fun d => d.type = .ready).length ≤ 1) (applied : List Condition)
    (c : Condition) :
    (∃ d first, (s.setAll (applied ++ [c])).conditions = [d] ∧ d.type = .ready ∧
      d.status = c.status ∧ d.reason = c.reason ∧ d.message = c.message ∧
      (lastRun c.status (s.conditions ++ applied ++ [c])).head? = some first ∧
      d.lastTransitionTime = first.lastTransitionTime) ∧
    ((s.setAll applied).changedBy c = false ↔
      ∃ d, (s.setAll applied).condition? .ready = some d ∧
        d.status = c.status ∧ d.reason = c.reason ∧ d.message = c.message) ∧
    ((s.setAll applied).changedBy c = false → s.setAll (applied ++ [c]) = s.setAll applied) := by
  have hone : s.conditions.length ≤ 1 := by
    rwa [List.filter_eq_self.2 fun d _ => decide_eq_true d.type_eq] at h
  refine ⟨?_, NodeIntentStatus.changedBy_eq_false_iff, fun hsame => ?_⟩
  · let first := (lastRun c.status (s.conditions ++ applied)).head?.getD c
    refine ⟨{ c with lastTransitionTime := first.lastTransitionTime }, first, ?_, c.type_eq, rfl,
      rfl, rfl, ?_, rfl⟩
    · rw [NodeIntentStatus.conditions_setAll hone, ← List.append_assoc, kept?_concat,
        Option.toList_some]
    · exact head?_lastRun_concat_self _ c
  · rw [NodeIntentStatus.setAll_concat, NodeIntentStatus.set, setCondition_eq_self hsame]

namespace Sample

def awaiting : NodeIntentStatus := ⟨[.unknown "pod not ready" ⟨10, 0⟩]⟩

/-- The node got ready, failed, and is waited for again. -/
def relapse : List Condition :=
  [.ready ⟨20, 0⟩, .failed "gone" ⟨30, 0⟩, .unknown "pod not ready" ⟨40, 0⟩]

end Sample

/-- The node has not been ready since it failed, although the reason changed afterwards, and to set
that reason again is no change. -/
theorem history_kept_sample :
    (Sample.awaiting.conditions.filter fun d => d.type = .ready).length ≤ 1 ∧
    (Sample.awaiting.setAll (Sample.relapse ++ [.unknown "pod not ready" ⟨50, 0⟩])).conditions =
      [.unknown "pod not ready" ⟨30, 0⟩] ∧
    (Sample.awaiting.setAll Sample.relapse).changedBy (.unknown "pod not ready" ⟨50, 0⟩) = false ∧
    Sample.awaiting.setAll (Sample.relapse ++ [.unknown "pod not ready" ⟨50, 0⟩]) =
      Sample.awaiting.setAll Sample.relapse := by
  have hone : (Sample.awaiting.conditions.filter fun d => d.type = .ready).length ≤ 1 := by decide
  obtain ⟨⟨d, first, hd, htype, hstatus, hreason, hmessage, hfirst, htime⟩, -, hsame⟩ :=
    history_kept hone Sample.relapse (.unknown "pod not ready" ⟨50, 0⟩)
  obtain rfl : Condition.failed "gone" ⟨30, 0⟩ = first := Option.some.inj hfirst
  refine ⟨hone, hd.trans ?_, rfl, hsame rfl⟩
  rcases d with ⟨type, status, reason, message, time⟩
  subst htype hstatus hreason hmessage htime
  rfl

end NodeDeploy
