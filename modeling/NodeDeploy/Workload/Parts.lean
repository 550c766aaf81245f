import NodeDeploy.Resource.Pod

/-! # Parts of a workload

The pieces that the pods of the device families share: the preference for a host of their own,
probes and environments.
-/

namespace NodeDeploy

/-- The preference for a host without pods that carry the same label. -/
def antiAffinity (label value : String) : Affinity :=
  ⟨some (some [{
    weight := 100
    term := {
      requirements := some (some [⟨label, "In", some [value]⟩])
      topologyKey := "kubernetes.io/hostname" } }])⟩

structure ProbeTiming where
  initialDelay : Int := 0
  period : Int := 0
  failureThreshold : Int := 0
  successThreshold : Option Int := none
  timeout : Option Int := none
  deriving DecidableEq, Repr, Inhabited

def ProbeTiming.probe (t : ProbeTiming) (command : List String) : Probe where
  command := some (some command)
  failureThreshold := some t.failureThreshold
  initialDelaySeconds := some t.initialDelay
  periodSeconds := some t.period
  successThreshold := t.successThreshold
  timeoutSeconds := t.timeout

def environment (vars : List (String × String)) : List EnvVar :=
  vars.map fun v => ⟨v.1, some v.2⟩

end NodeDeploy
