import NodeDeploy.Workload.Owned
import NodeDeploy.Workload.Revision

/-! # The pod of a node

The pod of a node is named after its intent, belongs to it, carries the namespace as the label of
its topology, says that it is wired and to which networks, and is stamped with its revision.

* `NodeIntent.pod` wraps a specification into that pod.
-/

namespace NodeDeploy

/-- The label that the pods of one topology share; its value is their namespace. -/
def topologyLabel : String := "dcops.microscaler.io/topology"

/-- The annotation of pods whose interfaces the plugin chain wires. -/
def wiringMark : String := "dcops.microscaler.io/wiring"

def networksAnnotation : String := "k8s.v1.cni.cncf.io/networks"

def nodeAnnotations (networks : Option String) : Dict String String :=
  let wired : Dict String String := Dict.ofList [(wiringMark, "true")]
  match networks with
  | some text => wired.insert networksAnnotation text
  | none => wired

def NodeIntent.pod (i : NodeIntent) (spec : PodSpec) (networks : Option String) :
    Except Failure Pod := do
  let key ← i.objectKey
  let metadata ← i.ownedMetadata key.name
  .ok <| Pod.stamp {
    metadata := { metadata with
      labels := some (Dict.ofList [(topologyLabel, key.ns)])
      annotations := some (nodeAnnotations networks) }
    spec := some spec }

end NodeDeploy
