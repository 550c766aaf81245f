import NodeDeploy.Failure

/-! # Outcomes of a pass

A pass over an intent stops in some phase and says when the next one shall be.

* `Requeue.afterFailure`: failures of a bootstrap or a release, and of the store anywhere, are
  retried; any other waits for a change.
-/

namespace NodeDeploy

inductive Phase where
  | fetching
  | finalizing
  | resolving
  | attaching
  | converging
  | awaitingReady
  | bootstrapping
  | ready
  deriving DecidableEq, Repr, Inhabited

def Phase.word : Phase → String
  | .fetching => "Fetching"
  | .finalizing => "Finalizing"
  | .resolving => "Resolving"
  | .attaching => "Attaching"
  | .converging => "Converging"
  | .awaitingReady => "AwaitingReady"
  | .bootstrapping => "Bootstrapping"
  | .ready => "Ready"

inductive Requeue where
  /-- When something changes. -/
  | never
  /-- After a delay. -/
  | after (delay : Duration)
  /-- As soon as the backoff of the intent allows. -/
  | immediate
  deriving DecidableEq, Repr, Inhabited

structure Outcome where
  phase : Phase
  requeue : Requeue
  deriving DecidableEq, Repr, Inhabited

def Requeue.afterFailure (phase : Phase) (failure : Failure) : Requeue :=
  if phase = .bootstrapping ∨ phase = .finalizing ∨ failure.isStoreTrouble then .immediate
  else .never

end NodeDeploy
