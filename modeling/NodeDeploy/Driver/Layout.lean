import NodeDeploy.Bootstrap.Script
import NodeDeploy.Driver.Family
import NodeDeploy.Workload.NodePod
import NodeDeploy.Workload.Parts

/-! # Layouts of the pods of network devices

The pod of a network device has the volumes of its layout, one for each persistent volume of the
configuration, and the license if there is one. Its one container mounts them.

* `Layout.volumes` and `Layout.mounts` list the volumes of a pod and the mounts of its container;
* `Layout.podSpec` is the specification of the pod.
-/

namespace NodeDeploy

inductive Layout where
  | srLinux
  | srOs
  deriving DecidableEq, Repr, Inhabited

namespace Layout

/-! ## Names of volumes -/

def variantsName : String := "variants"

def macScriptName : String := "topomac-script"

def entrypointName : String := "k8s-entrypoint"

def hugePagesName : String := "hugepages"

def licenseName : String := "license"

/-! ## Volumes and mounts -/

/-- The volumes that a pod has whatever its configuration. -/
def fixedVolumes (l : Layout) (f : Family) (spec : NodeConfigSpec) : List Volume :=
  match l with
  | .srLinux => [
      .ofConfigMap variantsName (f.provider ++ "-variants")
        [⟨spec.modelOr f.model, "topo-template.yml"⟩] none,
      .ofConfigMap macScriptName (f.provider ++ "-topomac-script") [] none,
      .ofConfigMap entrypointName (f.provider ++ "-k8s-entrypoint") [] (some 0o777)]
  | .srOs => [.ofMedium hugePagesName "HugePages"]

def licenseFile : Layout → String
  | .srLinux => "license.key"
  | .srOs => "license.txt"

def licenseVolume (l : Layout) (f : Family) (key : String) : Volume :=
  .ofSecret licenseName f.licenseSecret [⟨key, l.licenseFile⟩]

def persistentVolume (node : String) (v : PersistentVolume) : Volume :=
  .ofClaim v.name (partName node v.name)

def volumes (l : Layout) (f : Family) (node : String) (spec : NodeConfigSpec) : List Volume :=
  l.fixedVolumes f spec ++ spec.persistentVolumes.map (persistentVolume node) ++
    (spec.licenseKey.map (l.licenseVolume f)).toList

def fixedMounts : Layout → List VolumeMount
  | .srLinux => [
      { name := variantsName, mountPath := "/tmp/topo" },
      { name := macScriptName, mountPath := "/tmp/topomac" },
      { name := entrypointName
        mountPath := "/k8s-entrypoint.sh"
        subPath := some "k8s-entrypoint.sh" }]
  | .srOs => [{ name := hugePagesName, mountPath := "/dev/hugepages" }]

/-- The license is mounted as a file by one layout, and as a directory by the other. -/
def licenseMount (l : Layout) : VolumeMount :=
  match l with
  | .srLinux => {
      name := licenseName
      mountPath := "/opt/srlinux/etc/license.key"
      subPath := some l.licenseFile }
  | .srOs => { name := licenseName, mountPath := "/nokia/license/" }

def persistentMount (v : PersistentVolume) : VolumeMount where
  name := v.name
  mountPath := v.mountPath

def mounts (l : Layout) (spec : NodeConfigSpec) : List VolumeMount :=
  l.fixedMounts ++ spec.persistentVolumes.map persistentMount ++
    if spec.licenseKey.isSome then [l.licenseMount] else []

/-! ## Pods -/

/-- The container of a family, before the layout adds to it. -/
def baseContainer (l : Layout) (f : Family) (node : String) (spec : NodeConfigSpec) :
    Container where
  name := node
  image := some (spec.imageOr f.image)
  command := some f.command
  args := some f.args
  env := some (environment f.env)
  resources := some (spec.resources f.requests f.limits)
  imagePullPolicy := some "IfNotPresent"
  securityContext := some ⟨some true, some 0⟩
  volumeMounts := some (l.mounts spec)

def container (l : Layout) (f : Family) (node : String) (spec : NodeConfigSpec) : Container :=
  match l with
  | .srLinux => { l.baseContainer f node spec with
      readinessProbe := some <|
        ProbeTiming.probe { initialDelay := 10, period := 5, failureThreshold := 10 }
          ["cat /etc/opt/srlinux/devices/app_ephemeral.mgmt_server.ready_for_config"] }
  | .srOs => { l.baseContainer f node spec with
      tty := some true
      stdin := some true
      startupProbe := some <|
        ProbeTiming.probe
          { initialDelay := 15, period := 5, failureThreshold := 3,
            successThreshold := some 1, timeout := some 1 }
          ["/opt/nokia/bin/startup_probe"]
      livenessProbe := some <|
        ProbeTiming.probe
          { initialDelay := 3, period := 15, failureThreshold := 3,
            successThreshold := some 1, timeout := some 1 }
          ["/opt/nokia/bin/liveness_probe"] }

theorem volumeMounts_container (l : Layout) (f : Family) (node : String) (spec : NodeConfigSpec) :
    (l.container f node spec).volumeMounts = some (l.mounts spec) := by
  cases l <;> rfl

def podSpec (l : Layout) (f : Family) (node : ObjectKey) (spec : NodeConfigSpec) : PodSpec where
  containers := [l.container f node.name spec]
  affinity := some (antiAffinity topologyLabel node.ns)
  nodeSelector :=
    match l with
    | .srLinux => none
    | .srOs => some {}
  terminationGracePeriodSeconds :=
    match l with
    | .srLinux => some 0
    | .srOs => none
  volumes := some (l.volumes f node.name spec)

theorem volumes_podSpec (l : Layout) (f : Family) (node : ObjectKey) (spec : NodeConfigSpec) :
    (l.podSpec f node spec).volumes = some (l.volumes f node.name spec) := rfl

def script (l : Layout) (b : CertificateBundle) : BootstrapScript :=
  match l with
  | .srLinux => .managementPlane b
  | .srOs => (BootstrapScript.managementPlane b).withLoginBanner "Welcome to Nokia SROS!"

end Layout

end NodeDeploy
