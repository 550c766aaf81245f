import NodeDeploy.Proofs.Storage

/-! # Mounts of claimed storage

The claims of a node are built from its configuration alone, the same way for all drivers, while
each driver lays out the pod itself. So storage may be claimed that no pod mounts.

* `MountsClaims` says that a pod uses just the claims of its node, each where it is configured to
  be.
* `mounts_claims_iff`: the pods of network devices do, and those of plain servers only if nothing is
  claimed.
* `server_claim_unmounted`: a plain server whose storage is claimed and not mounted.
-/

namespace NodeDeploy

/-- The volumes of a pod whose content is that of a claim. -/
def Pod.claimVolumes (p : Pod) : List Volume :=
  (p.specOrEmpty.volumes.getD []).filter fun v => v.claim?.isSome

/-- A pod uses just the claims of its node, and mounts each in its container where the configuration
says so. -/
structure MountsClaims (volumes : List PersistentVolume) (claims : List VolumeClaim) (p : Pod) :
    Prop where
  /-- The pod uses the claims, in their order, and no other. -/
  used : p.claimNames = claims.map fun c => c.metadata.displayName
  named : p.claimVolumes.map Volume.name = volumes.map PersistentVolume.name
  mounted : ∃ container, p.specOrEmpty.containers = [container] ∧
    ∀ v ∈ volumes, ⟨v.name, v.mountPath, none⟩ ∈ container.volumeMounts.getD []

namespace Layout

/-- The volumes of a pod whose content is claimed are those of the configuration. -/
theorem claimVolumes_podSpec (l : Layout) (f : Family) (key : ObjectKey) (spec : NodeConfigSpec) :
    ((l.podSpec f key spec).volumes.getD []).filter (fun v => v.claim?.isSome) =
      spec.persistentVolumes.map (persistentVolume key.name) := by
  have hfixed : (l.fixedVolumes f spec).filter (fun v => v.claim?.isSome) = [] := by
    cases l <;> rfl
  have hlicense : (spec.licenseKey.map (l.licenseVolume f)).toList.filter
      (fun v => v.claim?.isSome) = [] := by
    cases spec.licenseKey <;> rfl
  have hclaimed : (spec.persistentVolumes.map (persistentVolume key.name)).filter
      (fun v => v.claim?.isSome) = spec.persistentVolumes.map (persistentVolume key.name) := by
    refine List.filter_eq_self.2 fun x hx => ?_
    obtain ⟨v, -, rfl⟩ := List.mem_map.1 hx
    rfl
  rw [volumes_podSpec, Option.getD_some, volumes, List.filter_append, List.filter_append, hfixed,
    hlicense, hclaimed, List.nil_append, List.append_nil]

/-- Every volume is mounted where the configuration says so. -/
theorem mem_volumeMounts (l : Layout) (f : Family) (node : String) {spec : NodeConfigSpec}
    {v : PersistentVolume} (hv : v ∈ spec.persistentVolumes) :
    ⟨v.name, v.mountPath, none⟩ ∈ (l.container f node spec).volumeMounts.getD [] := by
  rw [volumeMounts_container, Option.getD_some]
  exact List.mem_append_left _ (List.mem_append_right _
    (List.mem_map_of_mem (f := persistentMount) hv))

end Layout

namespace NodeIntent

/-- The claims of a node are named after it and the volumes, one for each volume and in order. -/
theorem names_volumeClaims {i : NodeIntent} {spec : NodeConfigSpec} {claims : List VolumeClaim}
    (h : i.volumeClaims spec = .ok claims) : claims.map (fun c => c.metadata.displayName) =
      spec.persistentVolumes.map fun v => partName i.metadata.displayName v.name :=
  map_eq_of_mapM h fun _ _ hc => congrArg ObjectKey.name (volumeClaim_spec hc).2.1

end NodeIntent

namespace Sample

def volume : PersistentVolume := ⟨"data", "/data", {}⟩

def storing (provider : String) : NodeConfig where
  metadata := { name := some "leaf1", ns := some "fabric" }
  spec := { provider, persistentVolumes := [volume] }

end Sample

namespace Driver

variable {i : NodeIntent} {c : NodeConfig}

def isNetwork : Driver → Bool
  | .network _ _ => true
  | .server _ => false

/-- The pods of network devices mount all that is claimed. -/
theorem mountsClaims_network {layout : Layout} {family : Family} {claims : List VolumeClaim}
    {p : Pod} (hc : i.volumeClaims c.spec = .ok claims)
    (hs : p.spec = some (layout.podSpec family i.metadata.key c.spec)) :
    MountsClaims c.spec.persistentVolumes claims p where
  used := by
    rw [NodeIntent.names_volumeClaims hc, Pod.claimNames, Pod.specOrEmpty, hs, Option.getD_some,
      Layout.claimNames_podSpec]
    rfl
  named := by
    rw [Pod.claimVolumes, Pod.specOrEmpty, hs, Option.getD_some, Layout.claimVolumes_podSpec,
      List.map_map]
    rfl
  mounted := by
    refine ⟨layout.container family i.metadata.key.name c.spec, ?_, fun v hv => ?_⟩
    · rw [Pod.specOrEmpty, hs]
      rfl
    · exact layout.mem_volumeMounts family _ hv

/-- **Which drivers mount what they claim.** For every identified intent and every configuration,
each driver builds one claim for each persistent volume, named after the node and the volume, and a
pod. The pod uses just these claims, in their order, and mounts each where the configuration says
so, if it is that of a network device; that of a plain server uses none, so it does only if nothing
is claimed. -/
theorem mounts_claims_iff (d : Driver) (i : NodeIntent) (c : NodeConfig)
    (attachments : List NetworkAttachment) (hi : i.Identified) :
    ∃ claims p, d.claims i c = .ok claims ∧ d.workload i c attachments = .ok p ∧
      (claims.map fun x => x.metadata.displayName) =
        (c.spec.persistentVolumes.map fun v => partName i.metadata.displayName v.name) ∧
      (MountsClaims c.spec.persistentVolumes claims p ↔
        d.isNetwork = true ∨ c.spec.persistentVolumes = []) := by
  obtain ⟨claims, hclaims⟩ := claims_of_identified (d := d) hi c
  obtain ⟨p, hp⟩ := workload_of_identified (d := d) hi c attachments
  obtain ⟨-, -, -, hspec, -⟩ := workload_spec hp
  refine ⟨claims, p, hclaims, hp, NodeIntent.names_volumeClaims hclaims, ?_⟩
  cases d with
  | network layout family =>
    exact iff_of_true (mountsClaims_network hclaims hspec) (.inl rfl)
  | server provider =>
    have hnames : p.claimNames = [] := by
      rw [Pod.claimNames, Pod.specOrEmpty, hspec]
      rfl
    constructor
    · intro h
      have hnil := hnames.symm.trans h.used
      rw [NodeIntent.names_volumeClaims hclaims] at hnil
      exact .inr (List.map_eq_nil_iff.1 hnil.symm)
    · rintro (h | h)
      · cases h
      · refine ⟨?_, ?_, ?_⟩
        · rw [hnames, NodeIntent.names_volumeClaims hclaims, h]
          rfl
        · rw [Pod.claimVolumes, Pod.specOrEmpty, hspec, h]
          rfl
        · rw [Pod.specOrEmpty, hspec, h]
          exact ⟨_, rfl, fun v hv => absurd hv List.not_mem_nil⟩

theorem mounts_claims_sample : Sample.intent.Identified ∧
    ∃ claims p, Driver.srLinux.claims Sample.intent (Sample.storing "srlinux.nokia.com") =
        .ok claims ∧
      Driver.srLinux.workload Sample.intent (Sample.storing "srlinux.nokia.com") [] = .ok p ∧
      MountsClaims [Sample.volume] claims p := by
  have hi : Sample.intent.Identified := by decide
  obtain ⟨claims, p, hclaims, hp, -, hmounts⟩ :=
    mounts_claims_iff .srLinux Sample.intent (Sample.storing "srlinux.nokia.com") [] hi
  exact ⟨hi, claims, p, hclaims, hp, hmounts.2 (.inl rfl)⟩

/-- **The storage of a plain server is claimed, but not mounted.** -/
theorem server_claim_unmounted : Sample.intent.Identified ∧
    ∃ claims p, Driver.plainServer.claims Sample.intent (Sample.storing "x.server.com") =
        .ok claims ∧
      Driver.plainServer.workload Sample.intent (Sample.storing "x.server.com") [] = .ok p ∧
      claims.map (fun c => c.metadata.displayName) = ["leaf1-data"] ∧ p.claimNames = [] ∧
      ¬MountsClaims [Sample.volume] claims p := by
  refine ⟨by decide, _, _, rfl, rfl, rfl, rfl, fun h => ?_⟩
  exact absurd h.used (by decide)

end Driver

end NodeDeploy
