import NodeDeploy.Driver.Registry
import NodeDeploy.Log.Line

/-! # The program

The program reads its settings, tells what they are, starts to watch and runs until it is stopped.
Wrong settings end it at once.

* `Program.report` is all that a run shows, from its start to its being stopped.
-/

namespace NodeDeploy

/-- What a run shows: its exit code, the lines of its log and its error output. -/
structure Report where
  exit : Nat
  log : List String
  errors : String
  deriving DecidableEq, Repr, Inhabited

namespace Program

def startTarget : String := "node_deployer_controller"

def workTarget : String := "node_deployer_controller::controller"

def settingLines (s : Settings) : List String := [
  "Configuration:",
  "  Watch namespace: " ++ s.watchNamespace.getD "all namespaces",
  "  NodeConfig namespace: " ++ s.configNamespace.getD "intent namespace",
  "  Network attachments: " ++ (if s.attachNetworks then "true" else "false"),
  "  Concurrency: " ++ decimal s.concurrency,
  "  Device session timeout: " ++ s.sessionTimeout.text,
  "  Device SSH port: " ++ decimal s.sshPort]

/-- The lines on the work of the program until it is stopped. -/
def workLines : List String := [
  "Initializing Node Deployer Controller",
  "Registered providers: " ++ Registry.builtin.providerList,
  "Node Deployer Controller running",
  "Shutdown signal received, stopping"]

def firstLine : LogLine := ⟨startTarget, "Starting Node Deployer Controller"⟩

def lines (s : Settings) : List LogLine :=
  firstLine :: (settingLines s).map (⟨startTarget, ·⟩) ++ workLines.map (⟨workTarget, ·⟩)

/-- The filter of the log: the one given, unless there is none or it makes no sense. -/
def logFilter (vars : String → Option String) : LogFilter :=
  ((vars "RUST_LOG").bind LogFilter.parse?).getD .informative

def shown (f : LogFilter) (l : List LogLine) : List String :=
  (l.filter fun line => f.shows line.target LogLine.fields .info).map LogLine.rendered

def errorText : Failure → String
  | .invalidConfig message => "Error: InvalidConfig(" ++ quoted message ++ ")\n"
  | failure => "Error: " ++ failure.message ++ "\n"

def report (vars : String → Option String) : Report :=
  let filter := logFilter vars
  match Settings.ofVariables vars with
  | .ok settings => ⟨0, shown filter (lines settings), ""⟩
  | .error failure => ⟨1, shown filter [firstLine], errorText failure⟩

end Program

end NodeDeploy
