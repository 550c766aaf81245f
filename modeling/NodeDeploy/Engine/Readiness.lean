import NodeDeploy.Resource.Pod

/-! # Readiness of the workload

A workload can be reached once its first container is ready and it has an address.

* `Pod.addresses` lists the addresses, or says what is missing.
-/

namespace NodeDeploy

inductive Unready where
  /-- There is no pod. -/
  | noPod
  /-- Nothing is known of the containers. -/
  | noConditions
  /-- The first container is not ready. -/
  | notReady
  /-- There is no address. -/
  | noAddress
  deriving DecidableEq, Repr, Inhabited

def Unready.message : Unready → String
  | .noPod => "pod not found"
  | .noConditions => "pod conditions empty"
  | .notReady => "pod not ready"
  | .noAddress => "no ip provided"

/-- The addresses that a status reports: those in its list, or else the single one. -/
def PodStatus.addresses (s : PodStatus) : List String :=
  match (s.podIPs.getD []).filter (!·.isEmpty) with
  | [] => s.podIP.toList.filter (!·.isEmpty)
  | l => l

def PodStatus.firstContainer? (s : PodStatus) : Option ContainerStatus :=
  s.containerStatuses.bind (·.head?)

def Pod.addresses (p : Pod) : Except Unready (List String) :=
  match p.status with
  | none => .error .noConditions
  | some s =>
    match s.firstContainer? with
    | none => .error .noConditions
    | some c =>
      if !c.ready then .error .notReady
      else if s.addresses.isEmpty then .error .noAddress
      else .ok s.addresses

def podAddresses : Option Pod → Except Unready (List String)
  | none => .error .noPod
  | some p => p.addresses

end NodeDeploy
