import NodeDeploy.Resource.Affinity
import NodeDeploy.Resource.Container

/-! # Pods

A pod is the workload of a node: its specification, fixed once the pod exists, and its status, as
the cluster reports it.
-/

namespace NodeDeploy

def ResourceKind.pod : ResourceKind := ⟨"", "v1", "Pod", "pods"⟩

structure PodSpec where
  containers : List Container
  affinity : Option Affinity := none
  hostNetwork : Option Bool := none
  nodeSelector : Option (Dict String String) := none
  terminationGracePeriodSeconds : Option Int := none
  volumes : Option (List Volume) := none
  deriving DecidableEq, Repr, Inhabited

structure ContainerStatus where
  name : String
  ready : Bool
  restartCount : Int
  image : String
  imageID : String
  deriving DecidableEq, Repr, Inhabited

structure PodStatus where
  phase : Option String := none
  containerStatuses : Option (List ContainerStatus) := none
  initContainerStatuses : Option (List ContainerStatus) := none
  podIP : Option String := none
  podIPs : Option (List String) := none
  hostIP : Option String := none
  deriving DecidableEq, Repr, Inhabited

structure Pod where
  metadata : Metadata
  spec : Option PodSpec := none
  status : Option PodStatus := none
  deriving DecidableEq, Repr, Inhabited

namespace PodSpec

def volumeNames (s : PodSpec) : List String := (s.volumes.getD []).map Volume.name

/-- The JSON form, whose members stand in the order of their names. -/
def toJson (s : PodSpec) : Json := .record [
  ("affinity", s.affinity.map Affinity.toJson),
  ("containers", some (.arr (s.containers.map Container.toJson))),
  ("hostNetwork", s.hostNetwork.map .bool),
  ("nodeSelector", s.nodeSelector.map Json.ofStrings),
  ("terminationGracePeriodSeconds", s.terminationGracePeriodSeconds.map .int),
  ("volumes", s.volumes.map fun l => .arr (l.map Volume.toJson))]

def ofJson? (j : Json) : Option PodSpec := do
  let m ← j.readObject
  some {
    containers := ← Json.lenient m "containers" (Json.readList Container.ofJson?) []
    affinity := ← Json.optional m "affinity" Affinity.ofJson?
    hostNetwork := ← Json.optional m "hostNetwork" Json.readBool
    nodeSelector := ← Json.optional m "nodeSelector" (Json.readDict Json.readString)
    terminationGracePeriodSeconds :=
      ← Json.optional m "terminationGracePeriodSeconds" Json.readInt64
    volumes := ← Json.optional m "volumes" (Json.readList Volume.ofJson?) }

end PodSpec

namespace ContainerStatus

def toJson (s : ContainerStatus) : Json := .record [
  ("image", some (.str s.image)),
  ("imageID", some (.str s.imageID)),
  ("name", some (.str s.name)),
  ("ready", some (.bool s.ready)),
  ("restartCount", some (.int s.restartCount))]

def ofJson? (j : Json) : Option ContainerStatus := do
  let m ← j.readObject
  some {
    name := ← Json.lenient m "name" Json.readString ""
    ready := ← Json.lenient m "ready" Json.readBool false
    restartCount := ← Json.lenient m "restartCount" Json.readInt32 0
    image := ← Json.lenient m "image" Json.readString ""
    imageID := ← Json.lenient m "imageID" Json.readString "" }

end ContainerStatus

namespace PodStatus

def addressJson (ip : String) : Json := .record [("ip", some (.str ip))]

def addressOfJson? (j : Json) : Option String := do
  let m ← j.readObject
  Json.lenient m "ip" Json.readString ""

def toJson (s : PodStatus) : Json := .record [
  ("containerStatuses", s.containerStatuses.map fun l => .arr (l.map ContainerStatus.toJson)),
  ("hostIP", s.hostIP.map .str),
  ("initContainerStatuses",
    s.initContainerStatuses.map fun l => .arr (l.map ContainerStatus.toJson)),
  ("phase", s.phase.map .str),
  ("podIP", s.podIP.map .str),
  ("podIPs", s.podIPs.map fun l => .arr (l.map addressJson))]

def ofJson? (j : Json) : Option PodStatus := do
  let m ← j.readObject
  some {
    phase := ← Json.optional m "phase" Json.readString
    containerStatuses :=
      ← Json.optional m "containerStatuses" (Json.readList ContainerStatus.ofJson?)
    initContainerStatuses :=
      ← Json.optional m "initContainerStatuses" (Json.readList ContainerStatus.ofJson?)
    podIP := ← Json.optional m "podIP" Json.readString
    podIPs := ← Json.optional m "podIPs" (Json.readList addressOfJson?)
    hostIP := ← Json.optional m "hostIP" Json.readString }

end PodStatus

namespace Pod

def toJson (p : Pod) : Json := .record <|
  ResourceKind.pod.typeMembers ++ [
    ("metadata", some p.metadata.toJson),
    ("spec", p.spec.map PodSpec.toJson),
    ("status", p.status.map PodStatus.toJson)]

def ofJson? (j : Json) : Option Pod := do
  let m ← j.readObject
  guard (ResourceKind.pod.admits m)
  some {
    metadata := ← Json.lenient m "metadata" Metadata.ofJson? {}
    spec := ← Json.optional m "spec" PodSpec.ofJson?
    status := ← Json.optional m "status" PodStatus.ofJson? }

end Pod

end NodeDeploy
