import NodeDeploy.Proofs.Mounts

/-! # Names of volumes

The container of a pod mounts the volumes of the pod by their names, and no two of them may have the
same. The pods of network devices have volumes that their driver names, the license among them if
there is one, and persistent volumes that the configuration names, in whichever way it likes.

* `Layout.names_volumes` and `Layout.names_mounts`: the names in a pod and in its container.
* `Driver.volumes_mounted`: they are the same, one by one.
* `Driver.volume_names_distinct_iff`: the names in a pod are distinct if those of the configuration
  are, and the driver has given none of them to a volume of its own.
* `Driver.license_name_taken`: a configuration that names a volume as the driver names the license.
-/

namespace NodeDeploy

namespace Layout

/-- The names that a layout gives to volumes of its own, whatever the configuration. -/
def fixedNames : Layout → List String
  | .srLinux => ["variants", "topomac-script", "k8s-entrypoint"]
  | .srOs => ["hugepages"]

def licenseNames (spec : NodeConfigSpec) : List String :=
  if spec.licenseKey.isSome then ["license"] else []

def ownNames (l : Layout) (spec : NodeConfigSpec) : List String := l.fixedNames ++ licenseNames spec

def volumeNames (l : Layout) (spec : NodeConfigSpec) : List String :=
  l.fixedNames ++ spec.persistentVolumes.map PersistentVolume.name ++ licenseNames spec

variable (l : Layout) (f : Family) (spec : NodeConfigSpec)

theorem names_volumes (node : String) :
    (l.volumes f node spec).map Volume.name = l.volumeNames spec := by
  have hfixed : (l.fixedVolumes f spec).map Volume.name = l.fixedNames := by
    cases l <;> rfl
  have hclaimed : (spec.persistentVolumes.map (persistentVolume node)).map Volume.name =
      spec.persistentVolumes.map PersistentVolume.name := by
    rw [List.map_map]
    rfl
  have hlicense : (spec.licenseKey.map (l.licenseVolume f)).toList.map Volume.name =
      licenseNames spec := by
    rw [licenseNames]
    cases spec.licenseKey <;> rfl
  rw [volumes, List.map_append, List.map_append, hfixed, hclaimed, hlicense, volumeNames]

theorem names_mounts : (l.mounts spec).map VolumeMount.name = l.volumeNames spec := by
  have hfixed : l.fixedMounts.map VolumeMount.name = l.fixedNames := by
    cases l <;> rfl
  have hclaimed : (spec.persistentVolumes.map persistentMount).map VolumeMount.name =
      spec.persistentVolumes.map PersistentVolume.name := by
    rw [List.map_map]
    rfl
  have hlicense : (if spec.licenseKey.isSome then [l.licenseMount] else []).map VolumeMount.name =
      licenseNames spec := by
    rw [licenseNames]
    cases spec.licenseKey <;> cases l <;> rfl
  rw [mounts, List.map_append, List.map_append, hfixed, hclaimed, hlicense, volumeNames]

theorem mountNames_container (node : String) :
    (l.container f node spec).mountNames = l.volumeNames spec := by
  rw [Container.mountNames, volumeMounts_container, Option.getD_some, names_mounts]

theorem volumeNames_podSpec (key : ObjectKey) :
    (l.podSpec f key spec).volumeNames = l.volumeNames spec := by
  rw [PodSpec.volumeNames, volumes_podSpec, Option.getD_some, names_volumes]

theorem nodup_ownNames : (l.ownNames spec).Nodup := by
  rw [ownNames, licenseNames]
  cases spec.licenseKey.isSome <;> cases l <;> decide

/-- **When the names are distinct**: the configuration gives no name twice, and none that is taken.
The license comes last, so the names of the layout stand on both sides of the others. -/
theorem nodup_volumeNames_iff : (l.volumeNames spec).Nodup ↔
    (spec.persistentVolumes.map PersistentVolume.name).Nodup ∧
      ∀ v ∈ spec.persistentVolumes, v.name ∉ l.ownNames spec := by
  have hperm : (l.volumeNames spec).Perm
      (l.ownNames spec ++ spec.persistentVolumes.map PersistentVolume.name) := by
    rw [volumeNames, ownNames, List.append_assoc, List.append_assoc]
    exact List.perm_append_comm.append_left _
  rw [hperm.nodup_iff, List.nodup_append]
  constructor
  · rintro ⟨-, hnodup, hne⟩
    exact ⟨hnodup, fun v hv hown => hne _ hown _ (List.mem_map_of_mem hv) rfl⟩
  · rintro ⟨hnodup, hfree⟩
    refine ⟨l.nodup_ownNames spec, hnodup, ?_⟩
    rintro name hown _ hname rfl
    obtain ⟨v, hv, rfl⟩ := List.mem_map.1 hname
    exact hfree v hv hown

end Layout

namespace Sample

def licensed (volume : String) : NodeConfig where
  metadata := { name := some "leaf1", ns := some "fabric" }
  spec := {
    provider := "srlinux.nokia.com"
    licenseKey := some "leaf1.key"
    persistentVolumes := [⟨volume, "/data", {}⟩] }

end Sample

namespace Driver

/-- **Every volume is mounted, and every mount is that of a volume.** For each kind of network
devices and every identified intent, whatever the configuration and the attachments, there is a pod.
It has one container, and this mounts the volumes of the pod one by one. -/
theorem volumes_mounted (layout : Layout) (family : Family) (i : NodeIntent) (c : NodeConfig)
    (attachments : List NetworkAttachment) (hi : i.Identified) :
    ∃ p spec container, (Driver.network layout family).workload i c attachments = .ok p ∧
      p.spec = some spec ∧ spec.containers = [container] ∧
      container.mountNames = spec.volumeNames := by
  obtain ⟨p, hp⟩ := workload_of_identified (d := .network layout family) hi c attachments
  obtain ⟨-, -, -, hspec, -⟩ := workload_spec hp
  refine ⟨p, _, _, hp, hspec, rfl, ?_⟩
  rw [layout.mountNames_container family c.spec i.metadata.key.name]
  exact (layout.volumeNames_podSpec family c.spec i.metadata.key).symm

theorem volumes_mounted_sample : Sample.intent.Identified ∧
    ∃ p spec container,
      Driver.srLinux.workload Sample.intent (Sample.licensed "data") [] = .ok p ∧
      p.spec = some spec ∧ spec.containers = [container] ∧
      container.mountNames = spec.volumeNames :=
  have hi : Sample.intent.Identified := by decide
  ⟨hi, volumes_mounted .srLinux (.srLinux "srlinux.nokia.com") Sample.intent
    (Sample.licensed "data") [] hi⟩

def ownNames (d : Driver) (spec : NodeConfigSpec) : List String :=
  match d with
  | .network layout _ => layout.ownNames spec
  | .server _ => []

/-- **When the volumes of a pod have distinct names.** For every driver, every identified intent and
every configuration whose persistent volumes have distinct names there is a pod, and the names of
its volumes are distinct exactly if no persistent volume has the name of one that the driver
adds. -/
theorem volume_names_distinct_iff (d : Driver) (i : NodeIntent) (c : NodeConfig)
    (attachments : List NetworkAttachment) (hi : i.Identified)
    (hc : (c.spec.persistentVolumes.map PersistentVolume.name).Nodup) :
    ∃ p spec, d.workload i c attachments = .ok p ∧ p.spec = some spec ∧
      (spec.volumeNames.Nodup ↔ ∀ v ∈ c.spec.persistentVolumes, v.name ∉ d.ownNames c.spec) := by
  obtain ⟨p, hp⟩ := workload_of_identified (d := d) hi c attachments
  obtain ⟨-, -, -, hspec, -⟩ := workload_spec hp
  refine ⟨p, _, hp, hspec, ?_⟩
  cases d with
  | network layout family =>
    have hnames : ((Driver.network layout family).podSpec i.metadata.key c.spec).volumeNames =
        layout.volumeNames c.spec := layout.volumeNames_podSpec family c.spec _
    rw [hnames, layout.nodup_volumeNames_iff]
    exact and_iff_right hc
  | server provider => exact iff_of_true List.nodup_nil fun v _ => List.not_mem_nil

theorem volume_names_distinct_sample : Sample.intent.Identified ∧
    ((Sample.licensed "data").spec.persistentVolumes.map PersistentVolume.name).Nodup ∧
    ∃ p spec, Driver.srLinux.workload Sample.intent (Sample.licensed "data") [] = .ok p ∧
      p.spec = some spec ∧ spec.volumeNames.Nodup := by
  have hi : Sample.intent.Identified := by decide
  have hc : ((Sample.licensed "data").spec.persistentVolumes.map PersistentVolume.name).Nodup := by
    decide
  obtain ⟨p, spec, hp, hspec, hiff⟩ :=
    volume_names_distinct_iff .srLinux Sample.intent (Sample.licensed "data") [] hi hc
  refine ⟨hi, hc, p, spec, hp, hspec, hiff.2 ?_⟩
  decide

/-- **A persistent volume may take the name of the license**, and then the pod has two volumes of
this name. -/
theorem license_name_taken : Sample.intent.Identified ∧
    ((Sample.licensed "license").spec.persistentVolumes.map PersistentVolume.name).Nodup ∧
    ∃ p spec, Driver.srLinux.workload Sample.intent (Sample.licensed "license") [] = .ok p ∧
      p.spec = some spec ∧
      spec.volumeNames = ["variants", "topomac-script", "k8s-entrypoint", "license", "license"] ∧
      ¬spec.volumeNames.Nodup :=
  ⟨by decide, by decide, _, _, rfl, rfl, rfl, by decide⟩

end Driver

end NodeDeploy
