import NodeDeploy.Bootstrap.Script

/-! # Running a bootstrap script

A session is opened, the steps of the script are sent until one fails, and the session is closed
whatever happened. A failure of the script counts before a failure to close.

* `Connector.runScript` is one run.
-/

namespace NodeDeploy

namespace Connector

variable {σ : Type}

/-- Sends the steps of a script until one fails. -/
def sendSteps (c : Connector σ) (target : SessionTarget) :
    List ScriptStep → Action σ DeviceError Unit
  | [] => pure ()
  | step :: rest => do
    let _ ← c.sendAll target step.mode step.commands
    c.sendSteps target rest

/-- Runs two actions one after the other, the second even if the first fails; the first failure
counts. -/
def followedBy {ε : Type} (first second : Action σ ε Unit) : Action σ ε Unit := fun s =>
  match first s with
  | (.ok (), t) => second t
  | (.error e, t) => (.error e, (second t).2)

/-- Opens a session, runs a script in it and closes it. -/
def runScript (c : Connector σ) (target : SessionTarget) (script : BootstrapScript) :
    Action σ DeviceError Unit := do
  c.openSession target
  followedBy (c.sendSteps target script.steps) (c.close target)

end Connector

end NodeDeploy
