import NodeDeploy.Proofs.Codecs
import NodeDeploy.Proofs.JsonText
import NodeDeploy.Proofs.Objects

/-! # What the revision of a pod tracks

The revision of the pod of a network device is the digest of a text, from which the specification of
the pod can be read back. So the text tells what went into the pod: the key of the intent, and the
image, the model, the resources, the volumes and the license that are in effect. It tells nothing
else, be it the identity of the intent, the networks it is wired to, or how large its volumes are.

* `PodSpec.text_injective`: specifications with the same text are the same.
* `PodInputs` is what goes into a pod, and `Layout.podSpec_eq_iff` says that it is all that does.
* `Layout.inputs_of_repeated`: constraints that repeat what the family asks for by default, and is
  held to, change nothing.
* `revision_tracks_inputs`: two pods have the same text exactly if they have the same inputs, and
  the same revision exactly then, unless two texts collide.
* `repeated_limit_tracked`: a constraint that repeats a limit alone does change the text.
-/

namespace NodeDeploy

/-! ## Texts of specifications -/

/-- Values that survive are told apart by their texts. -/
theorem Json.Survives.text_injective {α : Type} {read : Json → Option α} {write : α → Json}
    {x y : α} (hx : Survives read write x) (hy : Survives read write y)
    (h : (write x).text = (write y).text) : x = y := by
  have hparse : Json.parse? (write y).text = some (write x) := h ▸ Json.parse?_text hx.plain
  have hjson : write y = write x :=
    Option.some.inj ((Json.parse?_text hy.plain).symm.trans hparse)
  have hread := hy.reads
  rw [hjson, hx.reads] at hread
  exact Option.some.inj hread

/-- **A specification can be read back from its text.** -/
theorem PodSpec.text_injective {s t : PodSpec} (hs : s.Fits) (ht : t.Fits) (h : s.text = t.text) :
    s = t :=
  (PodSpec.survives hs).text_injective (PodSpec.survives ht) h

namespace Layout

open Json in
/-- The numbers of the container of a network device fit. -/
theorem fits_container (l : Layout) (f : Family) (node : String) (spec : NodeConfigSpec) :
    (l.container f node spec).Fits := by
  have hroot : ∀ s ∈ (l.baseContainer f node spec).securityContext, s.Fits := by
    simp [baseContainer, SecurityContext.Fits, IsInt64]
  cases l with
  | srLinux =>
    refine ⟨hroot, fun p hp => ?_, by simp [container, baseContainer],
      by simp [container, baseContainer]⟩
    obtain rfl := Option.some.inj hp
    constructor <;> simp [ProbeTiming.probe, IsInt32]
  | srOs =>
    refine ⟨hroot, by simp [container, baseContainer], fun p hp => ?_, fun p hp => ?_⟩
    all_goals
      obtain rfl := Option.some.inj hp
      constructor <;> simp [ProbeTiming.probe, IsInt32]

open Json in
/-- The numbers of the pod of a network device fit. -/
theorem fits_podSpec (l : Layout) (f : Family) (key : ObjectKey) (spec : NodeConfigSpec) :
    (l.podSpec f key spec).Fits where
  containers := by
    intro c hc
    obtain rfl := List.mem_singleton.1 hc
    exact l.fits_container f key.name spec
  affinity := by
    intro a ha
    obtain rfl := Option.some.inj ha
    simp [Affinity.Fits, antiAffinity, WeightedTerm.Fits, IsInt32]
  terminationGracePeriodSeconds := by
    cases l <;> simp [podSpec, IsInt64]
  volumes := by
    intro volumes hvolumes v hv
    obtain rfl := Option.some.inj hvolumes
    rw [Layout.volumes, List.mem_append, List.mem_append] at hv
    rcases hv with (hfixed | hclaim) | hlicense
    · cases l with
      | srLinux =>
        simp only [fixedVolumes, List.mem_cons, List.not_mem_nil, or_false] at hfixed
        rcases hfixed with rfl | rfl | rfl <;>
          simp [Volume.ofConfigMap, VolumeSource.Fits, IsInt32]
      | srOs =>
        obtain rfl := List.mem_singleton.1 hfixed
        trivial
    · obtain ⟨v, -, rfl⟩ := List.mem_map.1 hclaim
      trivial
    · obtain ⟨k, -, rfl⟩ := Option.map_eq_some_iff.1 (Option.mem_toList.1 hlicense)
      trivial

end Layout

/-! ## Inputs -/

/-- What goes into the pod of a network device. -/
structure PodInputs where
  key : ObjectKey
  image : String
  /-- The model, where the layout has a use for it. -/
  model : Option String
  requests : Dict String String
  limits : Dict String String
  /-- The names and the places of the persistent volumes. -/
  volumes : List (String × String)
  licenseKey : Option String
  deriving DecidableEq, Repr

namespace Layout

def inputs (l : Layout) (f : Family) (key : ObjectKey) (spec : NodeConfigSpec) : PodInputs where
  key
  image := spec.imageOr f.image
  model :=
    match l with
    | .srLinux => some (spec.modelOr f.model)
    | .srOs => none
  requests := spec.requests f.requests
  limits := spec.limits f.limits
  volumes := spec.persistentVolumes.map fun v => (v.name, v.mountPath)
  licenseKey := spec.licenseKey

end Layout

/-! ## From a specification back to the inputs -/

namespace Layout

def license? (v : Volume) : Option String :=
  match v.source with
  | .secret _ (some [item]) => some item.key
  | _ => none

def variant? (v : Volume) : Option String :=
  match v.source with
  | .configMap _ (some [item]) _ => some item.key
  | _ => none

section

variable (l : Layout) (f : Family) (node : String) (spec : NodeConfigSpec)

/-- What is found in no persistent volume is found in the fixed ones or with the license. -/
theorem findSome?_volumes {α : Type} {read : Volume → Option α}
    (h : ∀ v, read (persistentVolume node v) = none) : (l.volumes f node spec).findSome? read =
      ((l.fixedVolumes f spec).findSome? read).or
        ((spec.licenseKey.map (l.licenseVolume f)).toList.findSome? read) := by
  have hclaims : (spec.persistentVolumes.map (persistentVolume node)).findSome? read = none := by
    rw [List.findSome?_map, List.findSome?_eq_none_iff]
    exact fun v _ => h v
  rw [volumes, List.findSome?_append, List.findSome?_append, hclaims, Option.or_none]

theorem findSome?_license? : (l.volumes f node spec).findSome? license? = spec.licenseKey := by
  have hfixed : (l.fixedVolumes f spec).findSome? license? = none := by
    cases l <;> rfl
  have hlicense : (spec.licenseKey.map (l.licenseVolume f)).toList.findSome? license? =
      spec.licenseKey := by
    cases spec.licenseKey <;> rfl
  rw [findSome?_volumes l f node spec fun _ => rfl, hfixed, hlicense, Option.none_or]

theorem findSome?_variant? (ns : String) :
    (l.volumes f node spec).findSome? variant? = (l.inputs f ⟨ns, node⟩ spec).model := by
  have hfixed : (l.fixedVolumes f spec).findSome? variant? =
      (l.inputs f ⟨ns, node⟩ spec).model := by
    cases l <;> rfl
  have hlicense : (spec.licenseKey.map (l.licenseVolume f)).toList.findSome? variant? = none := by
    cases spec.licenseKey <;> rfl
  rw [findSome?_volumes l f node spec fun _ => rfl, hfixed, hlicense, Option.or_none]

end

/-- Where it is known whether there is a license, the mounts tell the names and the places of the
persistent volumes. -/
theorem persistent_of_mounts {l : Layout} {spec spec' : NodeConfigSpec}
    (hlicense : spec.licenseKey = spec'.licenseKey) (h : l.mounts spec = l.mounts spec') :
    (spec.persistentVolumes.map fun v => (v.name, v.mountPath)) =
      spec'.persistentVolumes.map fun v => (v.name, v.mountPath) := by
  rw [mounts, mounts, hlicense] at h
  have hmounts := List.append_cancel_left (List.append_cancel_right h)
  have hpairs := congrArg (List.map fun m : VolumeMount => (m.name, m.mountPath)) hmounts
  rw [List.map_map, List.map_map] at hpairs
  exact hpairs

end Layout

theorem nonemptyDict_injective {d e : Dict String String}
    (h : nonemptyDict d = nonemptyDict e) : d = e := by
  have hdict := congrArg (fun x => x.getD {}) h
  simpa using hdict

namespace Layout

variable {l : Layout} {f : Family} {key key' : ObjectKey} {spec spec' : NodeConfigSpec}

theorem inputs_of_podSpec (h : l.podSpec f key spec = l.podSpec f key' spec') :
    l.inputs f key spec = l.inputs f key' spec' := by
  have hcontainer : l.container f key.name spec = l.container f key'.name spec' :=
    (List.cons.inj (congrArg PodSpec.containers h)).1
  have hname : key.name = key'.name := by
    have hname := congrArg Container.name hcontainer
    cases l <;> exact hname
  have himage : spec.imageOr f.image = spec'.imageOr f.image := by
    have himage := congrArg Container.image hcontainer
    cases l <;> exact Option.some.inj himage
  have hresources : spec.resources f.requests f.limits = spec'.resources f.requests f.limits := by
    have hresources := congrArg Container.resources hcontainer
    cases l <;> exact Option.some.inj hresources
  have hmounts : l.mounts spec = l.mounts spec' := by
    have hmounts := congrArg Container.volumeMounts hcontainer
    rw [volumeMounts_container, volumeMounts_container] at hmounts
    exact Option.some.inj hmounts
  have hvolumes : l.volumes f key.name spec = l.volumes f key'.name spec' :=
    Option.some.inj (congrArg PodSpec.volumes h)
  have hns : key.ns = key'.ns := by
    have haffinity : antiAffinity topologyLabel key.ns = antiAffinity topologyLabel key'.ns :=
      Option.some.inj (congrArg PodSpec.affinity h)
    simpa [antiAffinity] using haffinity
  have hkey : key = key' := by
    cases key
    cases key'
    simp_all
  have hlicense := congrArg (List.findSome? license?) hvolumes
  have hvariant := congrArg (List.findSome? variant?) hvolumes
  rw [findSome?_license?, findSome?_license?] at hlicense
  rw [findSome?_variant? l f key.name spec key.ns,
    findSome?_variant? l f key'.name spec' key'.ns] at hvariant
  have hlimits := nonemptyDict_injective (congrArg Resources.limits hresources)
  have hrequests := nonemptyDict_injective (congrArg Resources.requests hresources)
  exact PodInputs.mk.injEq .. |>.mpr
    ⟨hkey, himage, hvariant, hrequests, hlimits, persistent_of_mounts hlicense hmounts, hlicense⟩

theorem volumes_of_inputs (h : l.inputs f key spec = l.inputs f key' spec') :
    l.volumes f key.name spec = l.volumes f key'.name spec' := by
  have hname : key.name = key'.name := congrArg (fun i => i.key.name) h
  have hlicense : spec.licenseKey = spec'.licenseKey := congrArg PodInputs.licenseKey h
  have hfixed : l.fixedVolumes f spec = l.fixedVolumes f spec' := by
    cases l with
    | srLinux =>
      have hmodel : spec.modelOr f.model = spec'.modelOr f.model :=
        Option.some.inj (congrArg PodInputs.model h)
      rw [fixedVolumes, fixedVolumes, hmodel]
    | srOs => rfl
  have hclaims : spec.persistentVolumes.map (persistentVolume key.name) =
      spec'.persistentVolumes.map (persistentVolume key.name) := by
    have hvolumes := congrArg (List.map fun v : String × String =>
      Volume.ofClaim v.1 (partName key.name v.1)) (congrArg PodInputs.volumes h)
    simp only [inputs, List.map_map] at hvolumes
    exact hvolumes
  rw [volumes, volumes, ← hname, hfixed, hclaims, hlicense]

theorem mounts_of_inputs (h : l.inputs f key spec = l.inputs f key' spec') :
    l.mounts spec = l.mounts spec' := by
  have hlicense : spec.licenseKey = spec'.licenseKey := congrArg PodInputs.licenseKey h
  have hclaims : spec.persistentVolumes.map persistentMount =
      spec'.persistentVolumes.map persistentMount := by
    have hmounts := congrArg (List.map fun v : String × String =>
      ({ name := v.1, mountPath := v.2 } : VolumeMount)) (congrArg PodInputs.volumes h)
    simp only [inputs, List.map_map] at hmounts
    exact hmounts
  rw [mounts, mounts, hclaims, hlicense]

theorem podSpec_of_inputs (h : l.inputs f key spec = l.inputs f key' spec') :
    l.podSpec f key spec = l.podSpec f key' spec' := by
  have hkey : key = key' := congrArg PodInputs.key h
  have himage : spec.imageOr f.image = spec'.imageOr f.image := congrArg PodInputs.image h
  have hrequests : spec.requests f.requests = spec'.requests f.requests :=
    congrArg PodInputs.requests h
  have hlimits : spec.limits f.limits = spec'.limits f.limits := congrArg PodInputs.limits h
  have hvolumes := volumes_of_inputs h
  have hmounts := mounts_of_inputs h
  subst hkey
  have hbase : l.baseContainer f key.name spec = l.baseContainer f key.name spec' := by
    simp only [baseContainer, NodeConfigSpec.resources, himage, hrequests, hlimits, hmounts]
  cases l <;> simp only [podSpec, container, hbase, hvolumes]

/-- **The inputs are all that goes into a specification**, and none of them is lost in it. -/
theorem podSpec_eq_iff : l.podSpec f key spec = l.podSpec f key' spec' ↔
    l.inputs f key spec = l.inputs f key' spec' :=
  ⟨inputs_of_podSpec, podSpec_of_inputs⟩

end Layout

/-! ## Constraints that repeat a default -/

/-- A constraint repeats what a family asks for by default and, if there is a limit, is held to. -/
structure Family.Repeats (f : Family) (name quantity : String) : Prop where
  request : f.requests.find? name = some quantity
  limit : ∀ limit ∈ f.limits.find? name, limit = quantity

/-- Some constraints are added to others, each of which repeats a default. -/
def Family.Repeated (f : Family) (given more : Dict String String) : Prop :=
  ∀ name, more.find? name = given.find? name ∨
    given.find? name = none ∧ ∃ quantity, more.find? name = some quantity ∧ f.Repeats name quantity

namespace Layout

/-- **Constraints that repeat a default change nothing.** -/
theorem inputs_of_repeated (l : Layout) {f : Family} (key : ObjectKey) {spec : NodeConfigSpec}
    {more : Dict String String} (h : f.Repeated spec.constraints more) :
    l.inputs f key { spec with constraints := more } = l.inputs f key spec := by
  have hrequests : f.requests.overlay more = f.requests.overlay spec.constraints := by
    refine Dict.ext_find? fun name => ?_
    rw [Dict.find?_overlay, Dict.find?_overlay]
    rcases h name with hsame | ⟨hnone, quantity, hsome, hrepeats⟩
    · rw [hsame]
    · rw [hnone, hsome, hrepeats.request]
      rfl
  have hlimits : (f.limits.mapValues fun name limit => (more.find? name).getD limit) =
      f.limits.mapValues fun name limit => (spec.constraints.find? name).getD limit := by
    refine Dict.ext_find? fun name => ?_
    rw [Dict.find?_mapValues, Dict.find?_mapValues]
    rcases h name with hsame | ⟨hnone, quantity, hsome, hrepeats⟩
    · rw [hsame]
    · rw [hnone, hsome]
      cases hlimit : f.limits.find? name with
      | none => rfl
      | some limit =>
        rw [hrepeats.limit limit hlimit]
        rfl
  exact PodInputs.mk.injEq .. |>.mpr ⟨rfl, rfl, rfl, hrequests, hlimits, rfl, rfl⟩

end Layout

/-! ## Revisions -/

theorem Layout.text_eq_iff {l : Layout} {f : Family} {key key' : ObjectKey}
    {spec spec' : NodeConfigSpec} :
    (l.podSpec f key spec).text = (l.podSpec f key' spec').text ↔
      l.inputs f key spec = l.inputs f key' spec' := by
  rw [← Layout.podSpec_eq_iff]
  exact ⟨PodSpec.text_injective (l.fits_podSpec f key spec) (l.fits_podSpec f key' spec'),
    congrArg PodSpec.text⟩

def Sha256.Collide (s t : String) : Prop := s ≠ t ∧ hex s = hex t

theorem Sha256.hex_eq_iff {s t : String} : hex s = hex t ↔ s = t ∨ Collide s t := by
  by_cases h : s = t
  · simp [h]
  · simp [Collide, h]

/-- **A revision tracks what goes into a pod.** The pods of two identified intents are built, each
with the digest of a text for its revision. The two texts are the same exactly if the intents have
the same key and the configurations the same image, model, requests, limits, volumes and license in
effect, and so are the revisions, unless the texts collide. Constraints that repeat defaults leave a
revision as it is. -/
theorem revision_tracks_inputs (l : Layout) (f : Family) {i j : NodeIntent} (hi : i.Identified)
    (hj : j.Identified) (c d : NodeConfig) (attachments others : List NetworkAttachment) :
    ∃ p q, (Driver.network l f).workload i c attachments = .ok p ∧
      (Driver.network l f).workload j d others = .ok q ∧
      p.revision? = some (Sha256.hex p.specOrEmpty.text) ∧
      q.revision? = some (Sha256.hex q.specOrEmpty.text) ∧
      (p.specOrEmpty.text = q.specOrEmpty.text ↔
        l.inputs f i.metadata.key c.spec = l.inputs f j.metadata.key d.spec) ∧
      (p.revision? = q.revision? ↔
        l.inputs f i.metadata.key c.spec = l.inputs f j.metadata.key d.spec ∨
          Sha256.Collide p.specOrEmpty.text q.specOrEmpty.text) ∧
      ∀ more, f.Repeated c.spec.constraints more → ∃ r,
        (Driver.network l f).workload i { c with spec := { c.spec with constraints := more } }
          others = .ok r ∧
        r.revision? = p.revision? := by
  obtain ⟨p, hp⟩ := Driver.workload_of_identified (d := .network l f) hi c attachments
  obtain ⟨q, hq⟩ := Driver.workload_of_identified (d := .network l f) hj d others
  obtain ⟨-, -, -, hpspec, hprevision⟩ := Driver.workload_spec hp
  obtain ⟨-, -, -, hqspec, hqrevision⟩ := Driver.workload_spec hq
  have hptext : p.specOrEmpty = l.podSpec f i.metadata.key c.spec := by
    rw [Pod.specOrEmpty, hpspec]
    rfl
  have hqtext : q.specOrEmpty = l.podSpec f j.metadata.key d.spec := by
    rw [Pod.specOrEmpty, hqspec]
    rfl
  have hpdigest : p.revision? = some (Sha256.hex p.specOrEmpty.text) := by
    rw [hprevision, hptext]
    rfl
  have hqdigest : q.revision? = some (Sha256.hex q.specOrEmpty.text) := by
    rw [hqrevision, hqtext]
    rfl
  have htexts : p.specOrEmpty.text = q.specOrEmpty.text ↔
      l.inputs f i.metadata.key c.spec = l.inputs f j.metadata.key d.spec := by
    rw [hptext, hqtext]
    exact Layout.text_eq_iff
  refine ⟨p, q, hp, hq, hpdigest, hqdigest, htexts, ?_, fun more hmore => ?_⟩
  · rw [hpdigest, hqdigest, Option.some.injEq, Sha256.hex_eq_iff, htexts]
  · obtain ⟨r, hr⟩ := Driver.workload_of_identified (d := .network l f) hi
      { c with spec := { c.spec with constraints := more } } others
    obtain ⟨-, -, -, -, hrrevision⟩ := Driver.workload_spec hr
    have hsame : (l.podSpec f i.metadata.key { c.spec with constraints := more }) =
        l.podSpec f i.metadata.key c.spec :=
      Layout.podSpec_of_inputs (l.inputs_of_repeated i.metadata.key hmore)
    refine ⟨r, hr, ?_⟩
    rw [hrrevision, hprevision, Driver.podSpec, Driver.podSpec, hsame]

namespace Sample

def asked (uid : String) : NodeIntent where
  metadata := { name := some "leaf1", ns := some "fabric", uid := some uid }
  spec := ⟨"sros.nokia.com", none⟩
  status := none

def router (constraints : Dict String String) : NodeConfig where
  metadata := { name := some "leaf1", ns := some "fabric" }
  spec := { provider := "sros.nokia.com", constraints }

/-- A request that repeats a default, which is also a limit. -/
theorem repeated_cpu :
    (Family.srOs "sros.nokia.com").Repeated {} (({} : Dict String String).insert "cpu" "2") := by
  intro name
  by_cases h : name = "cpu"
  · subst h
    exact .inr ⟨rfl, "2", Dict.find?_insert_self .., by decide, by decide⟩
  · exact .inl (Dict.find?_insert_ne _ h _)

end Sample

/-- More memory shows in the text of a pod. The number of processors that there is anyway does not
show in its revision. -/
theorem revision_tracks_inputs_sample :
    ∃ p q r, Driver.srOs.workload (Sample.asked "1") (Sample.router {}) [] = .ok p ∧
      Driver.srOs.workload (Sample.asked "2")
        (Sample.router (({} : Dict String String).insert "memory" "16Gi")) [] = .ok q ∧
      Driver.srOs.workload (Sample.asked "1")
        (Sample.router (({} : Dict String String).insert "cpu" "2")) [] = .ok r ∧
      p.specOrEmpty.text ≠ q.specOrEmpty.text ∧ r.revision? = p.revision? := by
  have hone : (Sample.asked "1").Identified := by decide
  have htwo : (Sample.asked "2").Identified := by decide
  obtain ⟨p, q, hp, hq, -, -, htexts, -, hrepeated⟩ :=
    revision_tracks_inputs .srOs (.srOs "sros.nokia.com") hone htwo
      (Sample.router {}) (Sample.router (({} : Dict String String).insert "memory" "16Gi")) [] []
  obtain ⟨r, hr, hsame⟩ := hrepeated _ Sample.repeated_cpu
  refine ⟨p, q, r, hp, hq, hr, fun h => ?_, hsame⟩
  exact absurd (htexts.1 h) (by decide)

/-- **A constraint that repeats a limit alone is added to the requests**, so that it changes the
text of a pod. -/
theorem repeated_limit_tracked :
    (Family.srOs "sros.nokia.com").limits.find? "hugepages-1Gi" = some "8Gi" ∧
    ∃ p q, Driver.srOs.workload (Sample.asked "1") (Sample.router {}) [] = .ok p ∧
      Driver.srOs.workload (Sample.asked "1")
        (Sample.router (({} : Dict String String).insert "hugepages-1Gi" "8Gi")) [] = .ok q ∧
      p.specOrEmpty.text ≠ q.specOrEmpty.text := by
  have hidentified : (Sample.asked "1").Identified := by decide
  obtain ⟨p, hp⟩ := Driver.workload_of_identified (d := .srOs) hidentified (Sample.router {}) []
  obtain ⟨q, hq⟩ := Driver.workload_of_identified (d := .srOs) hidentified
    (Sample.router (({} : Dict String String).insert "hugepages-1Gi" "8Gi")) []
  obtain ⟨-, -, -, hpspec, -⟩ := Driver.workload_spec hp
  obtain ⟨-, -, -, hqspec, -⟩ := Driver.workload_spec hq
  refine ⟨by decide, p, q, hp, hq, fun h => ?_⟩
  rw [Pod.specOrEmpty, Pod.specOrEmpty, hpspec, hqspec] at h
  exact absurd (Layout.text_eq_iff.1 h) (by decide)

end NodeDeploy
