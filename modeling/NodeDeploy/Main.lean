import NodeDeploy.Definition.Kinds
import NodeDeploy.Program

/-! # Command line

Without arguments the program runs with the settings in the environment; with `crdgen` it prints the
definitions of the kinds of objects that a cluster needs.
-/

namespace NodeDeploy

def variableNames : List String := ["ENABLE_NAD", "NODE_DEPLOYER_CONCURRENCY",
  "DEVICE_SESSION_TIMEOUT_SECS", "DEVICE_SSH_PORT", "WATCH_NAMESPACE", "NODE_CONFIG_NAMESPACE",
  "RUST_LOG"]

def environmentVariables : IO (String → Option String) := do
  let values ← variableNames.mapM fun name => do
    let value ← IO.getEnv name
    pure (name, value)
  pure fun name => (values.lookup name).join

def Report.print (r : Report) : IO UInt32 := do
  r.log.forM IO.println
  IO.eprint r.errors
  pure r.exit.toUInt32

end NodeDeploy

def main : List String → IO UInt32
  | ["crdgen"] => do
    IO.print NodeDeploy.definitionsText
    pure 0
  | _ => do
    let vars ← NodeDeploy.environmentVariables
    (NodeDeploy.Program.report vars).print
