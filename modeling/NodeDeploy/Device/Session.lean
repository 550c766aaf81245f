import NodeDeploy.Action
import NodeDeploy.Text.Quoted
import NodeDeploy.Time.Duration

/-! # Sessions with devices

A session is opened to a device at an address, with the credentials of a user; commands go out one
by one in one of two modes, and the device answers each with its output or the session fails. A
`Connector σ` is all that a user of sessions may rely on: actions on a state `σ` of any kind.

* `Connector.sendAll` sends commands in order and stops at the first failure;
* `DeviceError.message` is the text of a failure.
-/

namespace NodeDeploy

/-- The family of a device, which shapes its prompt and the setup of a session. -/
inductive Platform where
  /-- Nokia SR Linux. -/
  | srLinux
  /-- Nokia SR OS. -/
  | srOs
  deriving DecidableEq, Repr, Inhabited

namespace Platform

def promptTerminators : Platform → List Char
  | .srLinux => ['#']
  | .srOs => ['#', '>']

def onOpen : Platform → List String
  | .srLinux => ["environment cli-engine type basic", "environment complete-on-space false"]
  | .srOs => ["environment console width 512", "environment more false"]

end Platform

/-- How a command goes out: with its return once its echo is seen, or at once. -/
inductive SendMode where
  | standard
  | eager
  deriving DecidableEq, Repr, Inhabited

structure Credentials where
  username : String
  password : String
  deriving DecidableEq, Repr, Inhabited

/-- What is shown of credentials: never the password. -/
def Credentials.describe (c : Credentials) : String :=
  "Credentials \x7b username: " ++ quoted c.username ++ ", password: " ++ quoted "<redacted>" ++
    " \x7d"

structure SessionTarget where
  address : String
  sshPort : Nat
  credentials : Credentials
  platform : Platform
  deriving DecidableEq, Repr, Inhabited

inductive DeviceError where
  /-- The transport failed. -/
  | transport
  /-- The device refused the user. -/
  | authentication (user : String)
  /-- The device did not answer in time. -/
  | timeout (operation : String) (limit : Duration)
  /-- The device ended the session. -/
  | channelClosed (address : String)
  /-- The device answered a command with an error. -/
  | commandFailed (command output : String)
  deriving DecidableEq, Repr

def DeviceError.message : DeviceError → String
  | .transport => "SSH error"
  | .authentication user => "authentication failed for user " ++ user
  | .timeout operation limit => "timed out after " ++ limit.text ++ " waiting for " ++ operation
  | .channelClosed address => "session channel closed by " ++ address
  | .commandFailed command output => "command " ++ quoted command ++ " failed: " ++ output

/-- A way to open sessions and to use them; an open session is known by its target. -/
structure Connector (σ : Type) where
  openSession : SessionTarget → Action σ DeviceError Unit
  send : SessionTarget → String → SendMode → Action σ DeviceError String
  close : SessionTarget → Action σ DeviceError Unit

/-- Sends commands in order; the outputs, or the first failure. -/
def Connector.sendAll {σ : Type} (c : Connector σ) (target : SessionTarget) (mode : SendMode) :
    List String → Action σ DeviceError (List String)
  | [] => pure []
  | command :: rest => do
    let output ← c.send target command mode
    let outputs ← c.sendAll target mode rest
    pure (output :: outputs)

end NodeDeploy
