import NodeDeploy.Engine.Outcome
import NodeDeploy.Resource.Metadata
import NodeDeploy.Retry.Tracker

/-! # Reactions to the end of a pass

After a pass, the dispatcher waits for a change or requests another pass after a delay. A pass that
failed, or that asks for another one at once, is retried after the delay that the backoff of its
intent gives; any other pass ends the backoff.

* `react` is the reaction to the result of a pass.
-/

namespace NodeDeploy

inductive Reaction where
  /-- Nothing, until something changes. -/
  | awaitChange
  /-- Another pass, after a delay. -/
  | requeue (delay : Duration)
  deriving DecidableEq, Repr

/-- What a pass asks for; one that failed is to be retried. -/
def Requeue.ofResult : Except Failure Outcome → Requeue
  | .ok outcome => outcome.requeue
  | .error _ => .immediate

/-- The reaction to the result of a pass of an intent, unless its backoff overflows. -/
def react (t : RetryTracker) (key : String) (result : Except Failure Outcome) :
    Option Reaction × RetryTracker :=
  match Requeue.ofResult result with
  | .never => (some .awaitChange, t.reset key)
  | .after delay => (some (.requeue delay), t.reset key)
  | .immediate =>
    match t.next key with
    | (some delay, t) => (some (.requeue delay), t)
    | (none, t) => (none, t)

end NodeDeploy
