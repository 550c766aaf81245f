import NodeDeploy.Bootstrap.Run
import NodeDeploy.Driver.Layout
import NodeDeploy.Workload.Claims

/-! # Drivers

A driver knows how the nodes of a provider are deployed: which models there are, what is wired and
claimed, what the pod looks like and how the device is configured. A plain server has no models, no
wiring and nothing to configure.

* `Driver.claims`, `Driver.attachments` and `Driver.workload` build the objects of a node;
* `Driver.bootstrap` configures its device.
-/

namespace NodeDeploy

inductive Driver where
  /-- Network devices of a family. -/
  | network (layout : Layout) (family : Family)
  /-- Plain servers. -/
  | server (provider : String)
  deriving Repr

namespace Driver

def srLinux : Driver := .network .srLinux (.srLinux "srlinux.nokia.com")

def srOs : Driver := .network .srOs (.srOs "sros.nokia.com")

def plainServer : Driver := .server "x.server.com"

def provider : Driver → String
  | .network _ family => family.provider
  | .server provider => provider

def validate (d : Driver) (c : NodeConfig) : Except Failure Unit :=
  match d with
  | .network _ family => family.validate c.spec
  | .server _ => .ok ()

def attachments (d : Driver) (i : NodeIntent) : Except Failure (List NetworkAttachment) :=
  match d with
  | .network _ family => family.attachments i
  | .server _ => .ok []

def claims (_ : Driver) (i : NodeIntent) (c : NodeConfig) : Except Failure (List VolumeClaim) :=
  i.volumeClaims c.spec

def serverPodSpec (name : String) (spec : NodeConfigSpec) : PodSpec where
  containers := [{
    name
    image := some (spec.imageOr "busybox:latest")
    resources := some (spec.resources {} {}) }]

/-- The pod of a node, which selects some attachments if its driver wires at all. -/
def workload (d : Driver) (i : NodeIntent) (c : NodeConfig)
    (attachments : List NetworkAttachment) : Except Failure Pod := do
  let key ← i.objectKey
  match d with
  | .network layout family =>
    i.pod (layout.podSpec family key c.spec) (Wiring.selection? attachments)
  | .server _ => i.pod (serverPodSpec key.name c.spec) none

/-- The secrets that a bootstrap needs; nothing is bootstrapped without them. -/
def secrets? (d : Driver) (i : NodeIntent) : Option BootstrapSecrets :=
  match d with
  | .network _ family => some (family.secrets i)
  | .server _ => none

/-- Configures the management plane of a device at the first of its addresses. -/
def bootstrap {σ : Type} (d : Driver) (c : Connector σ) (sshPort : Nat) (addresses : List String)
    (credentials : Credentials) (bundle : CertificateBundle) : Action σ Failure Unit :=
  match d with
  | .network layout family =>
    match addresses with
    | address :: _ =>
      (c.runScript ⟨address, sshPort, credentials, family.platform⟩ (layout.script bundle)).mapError
        .bootstrap
    | [] => throw (.notReady "no ip provided")
  | .server _ => pure ()

end Driver

end NodeDeploy
