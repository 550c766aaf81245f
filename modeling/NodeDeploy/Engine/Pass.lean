import NodeDeploy.Bootstrap.Login
import NodeDeploy.Driver.Resolution
import NodeDeploy.Engine.Convergence
import NodeDeploy.Engine.Outcome
import NodeDeploy.Engine.Readiness

/-! # Passes of the engine

A pass brings one intent a step closer to a running, configured node. It resolves the driver and the
configuration, applies claims and attachments, makes the pod the wanted one, waits until it can be
reached and configures the device. The first step that fails or has to wait ends the pass, and the
end of the pass is recorded as the ready condition of the intent, unless it is recorded already. An
intent that is being deleted is released instead.

* `Engine.deploy` is the way to a ready node, and `Stop` why it ends before;
* `Engine.pass` is a whole pass: its only errors are that the intent cannot be read or the end of
  the pass cannot be recorded.
-/

namespace NodeDeploy

structure Engine where
  registry : Registry := .builtin
  /-- The namespace of the configurations; that of the intent unless given. -/
  configNamespace : Option String := none
  /-- Where devices listen for sessions. -/
  sshPort : Nat := 22
  /-- Whether attachments are applied and selected by pods. -/
  attachNetworks : Bool := true

/-- Why the way to a ready node ends before. -/
inductive Stop where
  /-- A step failed. -/
  | failed (phase : Phase) (failure : Failure)
  /-- The workload cannot be reached yet. -/
  | waiting (reason : Unready)
  deriving DecidableEq, Repr

/-- How long to wait for a workload before looking again. -/
def readinessDelay : Duration := .ofSeconds 5

def Stop.condition (stop : Stop) (now : Instant) : Condition :=
  match stop with
  | .failed _ failure => .failed failure.message now
  | .waiting reason => .unknown reason.message now

def Stop.outcome : Stop → Outcome
  | .failed phase failure => ⟨phase, .afterFailure phase failure⟩
  | .waiting _ => ⟨.awaitingReady, .after readinessDelay⟩

namespace Engine

variable {σ : Type}

/-- A step of a phase: its failure stops the pass in this phase. -/
def step {α : Type} (phase : Phase) (a : Action σ Failure α) : Action σ Stop α :=
  a.mapError (.failed phase)

def storeStep {α : Type} (phase : Phase) (a : Action σ StoreError α) : Action σ Stop α :=
  step phase (a.mapError .store)

/-- The driver of an intent and its configuration, which the driver accepts. -/
def resolve (e : Engine) (s : Store σ) (i : NodeIntent) :
    Action σ Failure (Driver × NodeConfig) := do
  let driver ← .ofExcept (e.registry.resolve i.spec.provider)
  let config ← resolveConfig s e.configNamespace driver.provider i
  .ofExcept (driver.validate config)
  pure (driver, config)

def applyClaims (s : Store σ) : List VolumeClaim → Action σ Failure Unit
  | [] => pure ()
  | c :: rest => do
    let _ ← (s.applyClaim c).mapError .store
    applyClaims s rest

def applyAttachments (s : Store σ) : List NetworkAttachment → Action σ Failure Unit
  | [] => pure ()
  | a :: rest => do
    let _ ← (s.applyAttachment a).mapError .store
    applyAttachments s rest

/-- Applies the claims and, if networks are attached at all, the attachments of a node: the
attachments that its pod shall select. -/
def attach (e : Engine) (s : Store σ) (driver : Driver) (i : NodeIntent) (config : NodeConfig) :
    Action σ Failure (List NetworkAttachment) := do
  let claims ← .ofExcept (driver.claims i config)
  applyClaims s claims
  if e.attachNetworks then
    let attachments ← .ofExcept (driver.attachments i)
    applyAttachments s attachments
    pure attachments
  else pure []

def requireSecret (s : Store σ) (key : ObjectKey) : Action σ Failure Secret := do
  match ← (s.getSecret key).mapError .store with
  | some secret => pure secret
  | none => throw (.notFound ResourceKind.secret.kind key)

def credentials (s : Store σ) (key : ObjectKey) : Action σ Failure Credentials := do
  let secret ← requireSecret s key
  match Credentials.ofSecret? secret with
  | some c => pure c
  | none => throw (.invalidConfig ("secret " ++ key.text ++ " has no username and password"))

def certificates (s : Store σ) (key : ObjectKey) : Action σ Failure CertificateBundle := do
  let secret ← requireSecret s key
  match CertificateBundle.ofSecret certificateProfile secret with
  | .ok bundle => pure bundle
  | .error part => throw (.certificate part)

def bootstrap (e : Engine) (s : Store σ) (c : Connector σ) (driver : Driver) (ns : String)
    (secrets : BootstrapSecrets) (addresses : List String) : Action σ Failure Unit := do
  let login ← credentials s ⟨ns, secrets.credentials⟩
  let bundle ← certificates s ⟨ns, secrets.certificates⟩
  driver.bootstrap c e.sshPort addresses login bundle

def configure (e : Engine) (s : Store σ) (c : Connector σ) (driver : Driver) (ns : String)
    (i : NodeIntent) (addresses : List String) : Action σ Failure Unit :=
  match driver.secrets? i with
  | some secrets => e.bootstrap s c driver ns secrets addresses
  | none => pure ()

def awaitReady (s : Store σ) (key : ObjectKey) : Action σ Stop (List String) := do
  let pod ← storeStep .awaitingReady (s.getPod key)
  match podAddresses pod with
  | .ok addresses => pure addresses
  | .error reason => throw (.waiting reason)

/-- The way of an intent to a ready node. -/
def deploy (e : Engine) (s : Store σ) (c : Connector σ) (key : ObjectKey) (i : NodeIntent) :
    Action σ Stop Unit := do
  storeStep .resolving (s.addFinalizer i intentFinalizer)
  let (driver, config) ← step .resolving (e.resolve s i)
  let attachments ← step .attaching (e.attach s driver i config)
  let wanted ← step .converging (.ofExcept (driver.workload i config attachments))
  let _ ← step .converging (converge s wanted)
  let addresses ← awaitReady s key
  step .bootstrapping (e.configure s c driver key.ns i addresses)

/-- Records a condition of an intent, unless the intent is in that state already. -/
def record (s : Store σ) (i : NodeIntent) (c : Condition) : Action σ Failure Unit :=
  let status := i.statusOrEmpty
  if status.changedBy c then
    (s.updateStatus { i with status := some (status.set c) }).mapError .store
  else pure ()

def conclude (s : Store σ) (i : NodeIntent) (now : Instant) :
    Except Stop Unit → Action σ Failure Outcome
  | .ok () => do
    record s i (.ready now)
    pure ⟨.ready, .never⟩
  | .error stop => do
    record s i (stop.condition now)
    pure stop.outcome

/-- Releases an intent that is being deleted; what it owns is garbage collected with it. -/
def finalize (s : Store σ) (i : NodeIntent) (now : Instant) : Action σ Failure Outcome := do
  match ← (s.removeFinalizer i intentFinalizer).attempt with
  | .ok () => pure ⟨.finalizing, .never⟩
  | .error error => conclude s i now (.error (.failed .finalizing (.store error)))

/-- A pass over the intent of a key, at the time `now`. -/
def pass (e : Engine) (s : Store σ) (c : Connector σ) (key : ObjectKey) (now : Instant) :
    Action σ Failure Outcome := do
  match ← (s.getIntent key).mapError .store with
  | none => pure ⟨.fetching, .never⟩
  | some i =>
    if i.metadata.isDeleted then finalize s i now
    else
      let ended ← (e.deploy s c key i).attempt
      conclude s i now ended

/-- What is shown of what drivers are bound to. -/
def describeContext (e : Engine) : String :=
  "DriverContext \x7b config_namespace: " ++ quotedOption e.configNamespace ++ ", ssh_port: " ++
    decimal e.sshPort ++ ", .. \x7d"

def describe (e : Engine) : String :=
  "Reconciler \x7b registry: " ++ e.registry.describe ++ ", context: " ++ e.describeContext ++
    ", enable_network_attachments: " ++ (if e.attachNetworks then "true" else "false") ++
    ", .. \x7d"

end Engine

end NodeDeploy
