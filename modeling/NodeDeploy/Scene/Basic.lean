import NodeDeploy.Device.Bench
import NodeDeploy.Engine.Pass
import NodeDeploy.Store.Call
import NodeDeploy.Store.Memory

/-! # Scenes

A scene is a small world for the engine to work in: a store in memory whose calls are recorded and
may be struck by faults, and a bench of devices.

* `Scene.store` and `Scene.connector` are what the engine is given;
* `Scene.pass` runs a pass in the scene.
-/

namespace NodeDeploy

structure Scene where
  cluster : Recorded Memory := ⟨{}, [], []⟩
  bench : Bench := {}

namespace Scene

def memory (s : Scene) : Memory := s.cluster.state

def mapMemory (f : Memory → Memory) (s : Scene) : Scene :=
  { s with cluster := { s.cluster with state := f s.cluster.state } }

def store : Store Scene :=
  Memory.store.recorded.within Scene.cluster fun c s => { s with cluster := c }

def withBench (b : Bench) (s : Scene) : Scene := { s with bench := b }

def connector : Connector Scene where
  openSession t := (Bench.connector.openSession t).within Scene.bench withBench
  send t c m := (Bench.connector.send t c m).within Scene.bench withBench
  close t := (Bench.connector.close t).within Scene.bench withBench

def pass (e : Engine) (key : ObjectKey) (now : Instant) (s : Scene) :
    Except Failure Outcome × Scene :=
  e.pass store connector key now s

def converge (wanted : Pod) (s : Scene) : Except Failure Convergence × Scene :=
  NodeDeploy.converge store wanted s

def resolveConfig (configNamespace : Option String) (provider : String) (i : NodeIntent)
    (s : Scene) : Except Failure NodeConfig × Scene :=
  NodeDeploy.resolveConfig store configNamespace provider i s

def readyCondition? (s : Scene) (key : ObjectKey) : Option Condition :=
  (s.memory.intents.find? key).bind NodeIntent.readyCondition?

end Scene

end NodeDeploy
