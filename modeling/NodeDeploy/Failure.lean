import NodeDeploy.Bootstrap.Certificate
import NodeDeploy.Device.Session
import NodeDeploy.Store.Error

/-! # Failures

Why a step of a deployment fails, or why the program cannot start.

* `Failure.message` is the text that a node intent shows of a failure.
-/

namespace NodeDeploy

inductive Failure where
  /-- The cluster cannot be reached. -/
  | cluster (error : ClusterError)
  /-- A call of the store failed. -/
  | store (error : StoreError)
  /-- No driver serves the provider; the others are listed. -/
  | notSupported (provider supported : String)
  /-- An object that is referred to does not exist. -/
  | notFound (kind : String) (key : ObjectKey)
  /-- The model is not in the catalog of the provider. -/
  | unsupportedModel (provider model : String)
  /-- The workload cannot be reached yet. -/
  | notReady (reason : String)
  /-- A session with a device failed. -/
  | bootstrap (error : DeviceError)
  /-- A part of the certificate bundle cannot be extracted. -/
  | certificate (part : CertificatePart)
  /-- A setting or a secret is not as it has to be. -/
  | invalidConfig (message : String)
  /-- The watch of the cluster failed. -/
  | watch (message : String)
  deriving DecidableEq, Repr

namespace Failure

def message : Failure → String
  | .cluster error => error.message
  | .store error => error.message
  | .notSupported provider supported =>
    "provider " ++ quoted provider ++ " is not supported. supported providers are " ++
      quoted supported
  | .notFound kind key => kind ++ " " ++ key.text ++ " not found"
  | .unsupportedModel provider model =>
    "cannot deploy pod, variant not provided in the " ++ provider ++ " catalog, got: " ++ model
  | .notReady reason => reason
  | .bootstrap error => "bootstrap failed: " ++ error.message
  | .certificate part => part.message
  | .invalidConfig message => "Invalid configuration: " ++ message
  | .watch message => "Resource watch failed: " ++ message

/-- Whether the cluster or its store failed, so that another try may succeed as it is. -/
def isStoreTrouble : Failure → Bool
  | .cluster _ => true
  | .store _ => true
  | _ => false

end Failure

end NodeDeploy
