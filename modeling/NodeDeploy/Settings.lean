import NodeDeploy.Failure
import NodeDeploy.Text.Blank

/-! # Settings

The program takes its settings from variables. A variable that is unset or blank leaves its setting
at the default; a number or a flag may have white space around it; a namespace is taken as it is.

* `Settings.ofVariables` reads the settings, and its error names the first variable at fault.
-/

namespace NodeDeploy

structure Settings where
  /-- The namespace to watch intents in; all of them unless given. -/
  watchNamespace : Option String := none
  /-- The namespace of the node configurations; that of the intent unless given. -/
  configNamespace : Option String := none
  /-- Whether network attachments are applied and selected by pods. -/
  attachNetworks : Bool := true
  /-- How many passes may run at once. -/
  concurrency : Nat := 4
  /-- How long each step of a session may take. -/
  sessionTimeout : Duration := .ofSeconds 5
  /-- Where devices listen for sessions. -/
  sshPort : Nat := 22
  deriving DecidableEq, Repr, Inhabited

namespace Settings

/-- The value of a variable, unless it is blank. -/
def given (vars : String → Option String) (name : String) : Option String :=
  (vars name).filter fun v => !isBlankString v

def lowered (s : String) : String := String.ofList (s.toList.map Char.toLower)

def flag? (word : String) : Option Bool :=
  if word = "true" ∨ word = "1" ∨ word = "yes" then some true
  else if word = "false" ∨ word = "0" ∨ word = "no" then some false
  else none

def readFlag (name value : String) : Except Failure Bool :=
  let word := lowered (trimmed value)
  match flag? word with
  | some b => .ok b
  | none => .error (.invalidConfig (name ++ " must be a boolean, got " ++ quoted word))

/-- The number up to `most` that a string stands for, white space around it left aside. -/
def number? (most : Nat) (value : String) : Option Nat :=
  (Text.readUnsigned? (Text.trim value.toList)).filter fun n => n ≤ most

def readNumber (most : Nat) (name value : String) : Except Failure Nat :=
  match number? most value with
  | some n => .ok n
  | none => .error (.invalidConfig (name ++ " must be a number, got " ++ quoted value))

def setting {α : Type} (vars : String → Option String) (name : String)
    (read : String → String → Except Failure α) (default : α) : Except Failure α :=
  match given vars name with
  | some value => read name value
  | none => .ok default

def readSeconds (name value : String) : Except Failure Duration :=
  (readNumber 0xffffffffffffffff name value).map fun n => .ofSeconds (UInt64.ofNat n)

def ofVariables (vars : String → Option String) : Except Failure Settings := do
  let defaults : Settings := {}
  let attachNetworks ← setting vars "ENABLE_NAD" readFlag defaults.attachNetworks
  let concurrency ← setting vars "NODE_DEPLOYER_CONCURRENCY" (readNumber 0xffff)
    defaults.concurrency
  let sessionTimeout ← setting vars "DEVICE_SESSION_TIMEOUT_SECS" readSeconds
    defaults.sessionTimeout
  let sshPort ← setting vars "DEVICE_SSH_PORT" (readNumber 0xffff) defaults.sshPort
  if concurrency = 0 then
    throw (.invalidConfig "NODE_DEPLOYER_CONCURRENCY must be at least 1")
  pure {
    watchNamespace := given vars "WATCH_NAMESPACE"
    configNamespace := given vars "NODE_CONFIG_NAMESPACE"
    attachNetworks, concurrency, sessionTimeout, sshPort }

end Settings

end NodeDeploy
