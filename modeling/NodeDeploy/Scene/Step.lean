import NodeDeploy.Scene.Basic

/-! # Steps of a scene

What can be done to a scene besides running the engine in it: objects are put into its store, pods
come and go, faults are armed, and devices are told to misbehave.

* `SceneStep.run` is the effect of a step.
-/

namespace NodeDeploy

inductive SceneStep where
  | addIntent (intent : NodeIntent)
  | addConfig (config : NodeConfig)
  | addSecret (secret : Secret)
  /-- The status that pods have once they are created. -/
  | initialStatus (status : PodStatus)
  | setPodStatus (key : ObjectKey) (status : PodStatus)
  | refusePods (message : String)
  | refuseRelease (message : String)
  /-- Marks an intent as being deleted. -/
  | markDeleted (key : ObjectKey)
  | addPod (pod : Pod)
  | deletePod (key : ObjectKey)
  | arm (fault : Fault)
  | clearFaults
  /-- Commands with this part in them are rejected from now on. -/
  | rejectCommands (part : String)
  /-- Logins are refused in the name of this user from now on. -/
  | refuseLogins (user : String)
  /-- Closes fail in the name of this address from now on. -/
  | breakCloses (address : String)

namespace SceneStep

def deletionTime : Instant := .ofDate ⟨2026, 1, 1⟩ 0 0 0 0

/-- The effect of a step, which only the creation of a pod can refuse. -/
def run (step : SceneStep) (s : Scene) : Except StoreError Unit × Scene :=
  match step with
  | .addIntent i => (.ok (), s.mapMemory (Memory.addIntent i))
  | .addConfig c => (.ok (), s.mapMemory (Memory.addConfig c))
  | .addSecret x => (.ok (), s.mapMemory (Memory.addSecret x))
  | .initialStatus x => (.ok (), s.mapMemory fun m => { m with initialStatus := some x })
  | .setPodStatus k x => (.ok (), s.mapMemory (Memory.setPodStatus k x))
  | .refusePods message => (.ok (), s.mapMemory fun m => { m with refusingPods := some message })
  | .refuseRelease message =>
    (.ok (), s.mapMemory fun m => { m with refusingRelease := some message })
  | .markDeleted k => (.ok (), s.mapMemory (Memory.markDeleted k deletionTime))
  | .addPod p =>
    let (result, m) := s.memory.createPod p
    (result, s.mapMemory fun _ => m)
  | .deletePod k => (.ok (), s.mapMemory (Memory.deletePod k))
  | .arm fault =>
    (.ok (), { s with cluster := { s.cluster with faults := s.cluster.faults ++ [fault] } })
  | .clearFaults => (.ok (), { s with cluster := { s.cluster with faults := [] } })
  | .rejectCommands part => (.ok (), { s with bench := { s.bench with rejecting := some part } })
  | .refuseLogins user => (.ok (), { s with bench := { s.bench with refusing := some user } })
  | .breakCloses address => (.ok (), { s with bench := { s.bench with breaking := some address } })

end SceneStep

end NodeDeploy
