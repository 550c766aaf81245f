import NodeDeploy.Text.Numeral
import NodeDeploy.Text.Quoted

/-! # Failures of a store

A call of a store fails because an object lacks what the call needs, because the cluster refused or
garbled a request, or for a reason that only the store knows.

* `StoreError.message` is the text of a failure.
-/

namespace NodeDeploy

structure Refusal where
  status : String
  message : String
  reason : String
  code : Nat
  deriving DecidableEq, Repr, Inhabited

inductive ClusterError where
  /-- The cluster refused a request. -/
  | refused (refusal : Refusal)
  /-- An object was asked for by the empty name, so that no request was made. -/
  | unnamed
  /-- The path of an object cannot be sent, so that no request was made. -/
  | unaddressable
  /-- The answer of the cluster is not what the request asks for. -/
  | garbled
  deriving DecidableEq, Repr, Inhabited

inductive StoreError where
  /-- The object lacks what the call needs. -/
  | missingField (field : String)
  /-- Any other failure, in the words of the store. -/
  | backend (message : String)
  /-- The cluster did not do its part. -/
  | cluster (error : ClusterError)
  deriving DecidableEq, Repr, Inhabited

def Refusal.text (r : Refusal) : String :=
  r.message ++ ": " ++ r.reason ++ " (ErrorResponse \x7b status: " ++ quoted r.status ++
    ", message: " ++ quoted r.message ++ ", reason: " ++ quoted r.reason ++ ", code: " ++
    decimal r.code ++ " \x7d)"

def ClusterError.message : ClusterError → String
  | .refused r => "Kubernetes error: ApiError: " ++ r.text
  | .unnamed => "Kubernetes error: the request has no name"
  | .unaddressable => "Kubernetes error: the request has no valid target"
  | .garbled => "Kubernetes error: the answer cannot be read"

def StoreError.message : StoreError → String
  | .missingField field => "object has no " ++ field
  | .backend message => message
  | .cluster error => error.message

end NodeDeploy
