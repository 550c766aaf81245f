import NodeDeploy.Failure
import NodeDeploy.Store.Basic
import NodeDeploy.Workload.Revision

/-! # Convergence of the workload

The pod that is running is made the wanted one. Since a pod cannot be changed, a pod of another
revision is deleted and created anew.

* `converge` compares revisions and does what is needed.
-/

namespace NodeDeploy

inductive Convergence where
  /-- The running pod was of the wanted revision. -/
  | unchanged
  /-- There was no pod. -/
  | created
  /-- The pod had drifted and was replaced. -/
  | recreated
  deriving DecidableEq, Repr, Inhabited

def Convergence.word : Convergence → String
  | .unchanged => "Unchanged"
  | .created => "Created"
  | .recreated => "Recreated"

def converge {σ : Type} (s : Store σ) (wanted : Pod) : Action σ Failure Convergence :=
  match wanted.metadata.ns, wanted.revision? with
  | none, _ => throw (.store (.missingField "namespace"))
  | some _, none => throw (.store (.missingField "revision hash"))
  | some ns, some revision => do
    let key : ObjectKey := ⟨ns, wanted.metadata.displayName⟩
    match ← (s.getPod key).mapError .store with
    | none =>
      (s.createPod wanted).mapError .store
      pure .created
    | some running =>
      if running.revision? = some revision then pure .unchanged
      else
        (s.deletePod key).mapError .store
        (s.createPod wanted).mapError .store
        pure .recreated

end NodeDeploy
