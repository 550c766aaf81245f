import NodeDeploy.Proofs.Records
import NodeDeploy.Proofs.Timestamps
import NodeDeploy.Resource.NetworkAttachment
import NodeDeploy.Resource.NodeConfig
import NodeDeploy.Resource.NodeIntent
import NodeDeploy.Resource.Pod
import NodeDeploy.Resource.VolumeClaim

/-! # Objects of the cluster survive in JSON

An object is read from its JSON form as it was, if its numbers have the width that the cluster gives
them and its times can be named: a deletion is noted to the second, a transition to the nanosecond.

* `Metadata.Fits`, `Container.Fits`, `Pod.Fits` and their siblings: what is asked of an object.
* `Metadata.survives`, `Pod.survives`, `VolumeClaim.survives`, `NetworkAttachment.survives` and
  `NodeIntentStatus.survives`: each object that is written to the cluster.
* `NodeConfigSpec.survives`: so do the parameters of nodes, which are only read.
-/

namespace NodeDeploy

open Json

/-! ## Metadata -/

/-- What is asked of metadata: its generation has 64 bits, and its deletion is noted to the
second. -/
structure Metadata.Fits (m : Metadata) : Prop where
  generation : ∀ n ∈ m.generation, IsInt64 n
  deletion : ∀ t ∈ m.deletionTimestamp, t.Recordable ∧ t.nanos % 1000000000 = 0

theorem OwnerReference.survives (o : OwnerReference) : Survives ofJson? toJson o := by
  refine ⟨?_, ?_, record_ne_null _⟩
  · simp [ofJson?, toJson, optional_def, lenient_def, optionalOf_map, optionalOf_singleton]
  · simp [toJson, plainMember_map]

namespace Metadata

theorem survives_wholeText {t : Instant} (h : t.Recordable ∧ t.nanos % 1000000000 = 0) :
    Survives readInstant (fun t => .str t.wholeText) t := by
  refine ⟨?_, trivial, Json.noConfusion⟩
  simp only [readInstant, readString, Option.bind_some]
  exact Instant.read?_wholeText h.1 h.2

theorem survives_owners (l : List OwnerReference) : Survives (readList OwnerReference.ofJson?)
    (fun l => .arr (l.map OwnerReference.toJson)) l :=
  survives_list fun o _ => o.survives

theorem survives {m : Metadata} (h : m.Fits) : Survives ofJson? toJson m := by
  have hdeletion := fun t ht => survives_wholeText (h.deletion t ht)
  have hgeneration := fun n hn => survives_int64 (h.generation n hn)
  refine ⟨?_, ?_, record_ne_null _⟩
  · simp [ofJson?, toJson, optional_def, optionalOf_map, survives_owners,
      optionalOf_map hdeletion, optionalOf_map hgeneration]
  · simp [toJson, plainMember_map, plainMember_map fun n hn => (hgeneration n hn).plain,
      plainMember_map fun l (_ : l ∈ m.ownerReferences) => (survives_owners l).plain]

end Metadata

/-! ## Attachments and claims -/

theorem NetworkAttachment.survives_config (config : String) : Survives configOfJson?
    (fun config => .record [("config", some (.str config))]) config := by
  refine ⟨?_, by simp, record_ne_null _⟩
  simp [configOfJson?, readRecord_record, required, readLast_singleton]

theorem NetworkAttachment.survives {a : NetworkAttachment} (h : a.metadata.Fits) :
    Survives ofJson? toJson a := by
  have hmetadata := Metadata.survives h
  have hconfig := survives_config a.config
  refine ⟨?_, ?_, record_ne_null _⟩
  · simp [ofJson?, toJson, ResourceKind.typeMembers, readRecord_record, required,
      readLast_singleton hmetadata, readLast_singleton hconfig]
  · simp [toJson, ResourceKind.typeMembers, hmetadata.plain]

theorem Resources.survives (r : Resources) : Survives ofJson? toJson r := by
  refine ⟨?_, ?_, record_ne_null _⟩
  · simp [ofJson?, toJson, optional_def, optionalOf_map]
  · simp [toJson, plainMember_map]

theorem VolumeClaimSpec.survives (s : VolumeClaimSpec) : Survives ofJson? toJson s := by
  refine ⟨?_, ?_, record_ne_null _⟩
  · simp [ofJson?, toJson, optional_def, optionalOf_map, Resources.survives]
  · simp [toJson, plainMember_map, (Resources.survives _).plain]

theorem VolumeClaim.survives {c : VolumeClaim} (h : c.metadata.Fits) :
    Survives ofJson? toJson c := by
  have hmetadata := Metadata.survives h
  refine ⟨?_, ?_, record_ne_null _⟩
  · refine reads_bind (readObject_record _) <| reads_bind (guard_of ?_) <|
      reads_bind (x := c.metadata) ?_ <| reads_bind (x := c.spec) ?_ rfl
    all_goals
      simp [ResourceKind.typeMembers, ResourceKind.admits, lenient_def, optional_def,
        optionalOf_singleton hmetadata, optionalOf_map, VolumeClaimSpec.survives]
  · simp [toJson, ResourceKind.typeMembers, hmetadata.plain, plainMember_map,
      (VolumeClaimSpec.survives _).plain]

/-! ## Volumes -/

theorem FileItem.survives (i : FileItem) : Survives ofJson? toJson i := by
  refine ⟨?_, ?_, record_ne_null _⟩
  · simp [ofJson?, toJson, lenient_def, optionalOf_singleton]
  · simp [toJson]

theorem VolumeMount.survives (m : VolumeMount) : Survives ofJson? toJson m := by
  refine ⟨?_, ?_, record_ne_null _⟩
  · simp [ofJson?, toJson, lenient_def, optional_def, optionalOf_map, optionalOf_singleton]
  · simp [toJson, plainMember_map]

def VolumeSource.Fits : VolumeSource → Prop
  | .configMap _ _ mode => ∀ n ∈ mode, IsInt32 n
  | _ => True

namespace VolumeSource

theorem survives_items (l : List FileItem) : Survives (readList FileItem.ofJson?)
    (fun l => .arr (l.map FileItem.toJson)) l :=
  survives_list fun i _ => i.survives

theorem configMapOfJson?_record {mode : Option Int} (h : ∀ n ∈ mode, IsInt32 n) (name : String)
    (items : Option (List FileItem)) :
    configMapOfJson? (.record [("defaultMode", mode.map .int), ("items", itemsJson items),
      ("name", some (.str name))]) = some (.configMap name items mode) := by
  simp [configMapOfJson?, itemsJson, lenient_def, optional_def, optionalOf_singleton,
    optionalOf_map, survives_items, optionalOf_map fun n hn => survives_int32 (h n hn)]

theorem secretOfJson?_record (name : Option String) (items : Option (List FileItem)) :
    secretOfJson? (.record [("items", itemsJson items), ("secretName", name.map .str)]) =
      some (.secret name items) := by
  simp [secretOfJson?, itemsJson, optional_def, optionalOf_map, survives_items]

theorem emptyDirOfJson?_record (medium : Option String) :
    emptyDirOfJson? (.record [("medium", medium.map .str)]) = some (.emptyDir medium) := by
  simp [emptyDirOfJson?, optional_def, optionalOf_map]

theorem claimOfJson?_record (name : String) :
    claimOfJson? (.record [("claimName", some (.str name))]) = some (.claim name) := by
  simp [claimOfJson?, lenient_def, optionalOf_singleton]

theorem plain_itemsJson (items : Option (List FileItem)) : PlainMember (itemsJson items) :=
  plainMember_map fun l _ => (survives_items l).plain

end VolumeSource

theorem Volume.survives {v : Volume} (h : v.source.Fits) : Survives ofJson? toJson v := by
  obtain ⟨name, source⟩ := v
  refine ⟨?_, ?_, record_ne_null _⟩
  · cases source with
    | configMap source items mode =>
      simp [ofJson?, toJson, VolumeSource.memberNamed, VolumeSource.member, lenient_def,
        optional_def, optionalOf_singleton, VolumeSource.ofMembers?,
        optionalOf_record (VolumeSource.configMapOfJson?_record h source items)]
    | _ =>
      simp [ofJson?, toJson, VolumeSource.memberNamed, VolumeSource.member, lenient_def,
        optional_def, optionalOf_singleton, VolumeSource.ofMembers?,
        optionalOf_record (VolumeSource.secretOfJson?_record _ _),
        optionalOf_record (VolumeSource.emptyDirOfJson?_record _),
        optionalOf_record (VolumeSource.claimOfJson?_record _)]
  · cases source with
    | configMap source items mode =>
      simp [toJson, VolumeSource.memberNamed, VolumeSource.member, VolumeSource.plain_itemsJson,
        plainMember_map fun n hn => (survives_int32 (h n hn)).plain]
    | _ =>
      simp [toJson, VolumeSource.memberNamed, VolumeSource.member, VolumeSource.plain_itemsJson,
        plainMember_map]

/-! ## Containers -/

theorem EnvVar.survives (e : EnvVar) : Survives ofJson? toJson e := by
  refine ⟨?_, ?_, record_ne_null _⟩
  · simp [ofJson?, toJson, lenient_def, optional_def, optionalOf_map, optionalOf_singleton]
  · simp [toJson, plainMember_map]

structure Probe.Fits (p : Probe) : Prop where
  failureThreshold : ∀ n ∈ p.failureThreshold, IsInt32 n
  initialDelaySeconds : ∀ n ∈ p.initialDelaySeconds, IsInt32 n
  periodSeconds : ∀ n ∈ p.periodSeconds, IsInt32 n
  successThreshold : ∀ n ∈ p.successThreshold, IsInt32 n
  timeoutSeconds : ∀ n ∈ p.timeoutSeconds, IsInt32 n

theorem Probe.survives_command (c : Option (List String)) : Survives commandOfJson?
    (fun c => .record [("command", c.map Json.strings)]) c := by
  refine ⟨?_, ?_, record_ne_null _⟩
  · simp [commandOfJson?, optional_def, optionalOf_map]
  · simp [plainMember_map]

theorem Probe.survives {p : Probe} (h : p.Fits) : Survives ofJson? toJson p := by
  have hnumber : ∀ x : Option Int, (∀ n ∈ x, IsInt32 n) →
      optionalOf readInt32 (x.map .int).toList = some x ∧ PlainMember (x.map .int) := fun x hx =>
    ⟨optionalOf_map fun n hn => survives_int32 (hx n hn),
      plainMember_map fun n hn => (survives_int32 (hx n hn)).plain⟩
  have h₁ := hnumber _ h.failureThreshold
  have h₂ := hnumber _ h.initialDelaySeconds
  have h₃ := hnumber _ h.periodSeconds
  have h₄ := hnumber _ h.successThreshold
  have h₅ := hnumber _ h.timeoutSeconds
  refine ⟨?_, ?_, record_ne_null _⟩
  · simp [ofJson?, toJson, optional_def, optionalOf_map, survives_command, h₁, h₂, h₃, h₄, h₅]
  · simp [toJson, plainMember_map, h₁, h₂, h₃, h₄, h₅]

def SecurityContext.Fits (s : SecurityContext) : Prop := ∀ n ∈ s.runAsUser, IsInt64 n

theorem SecurityContext.survives {s : SecurityContext} (h : s.Fits) :
    Survives ofJson? toJson s := by
  have huser := fun n hn => survives_int64 (h n hn)
  refine ⟨?_, ?_, record_ne_null _⟩
  · simp [ofJson?, toJson, optional_def, optionalOf_map, optionalOf_map huser]
  · simp [toJson, plainMember_map, plainMember_map fun n hn => (huser n hn).plain]

structure Container.Fits (c : Container) : Prop where
  securityContext : ∀ s ∈ c.securityContext, s.Fits
  readinessProbe : ∀ p ∈ c.readinessProbe, p.Fits
  startupProbe : ∀ p ∈ c.startupProbe, p.Fits
  livenessProbe : ∀ p ∈ c.livenessProbe, p.Fits

theorem Container.survives {c : Container} (h : c.Fits) : Survives ofJson? toJson c := by
  have henv : ∀ l ∈ c.env, Survives (readList EnvVar.ofJson?)
      (fun l => .arr (l.map EnvVar.toJson)) l := fun l _ => survives_list fun e _ => e.survives
  have hmounts : ∀ l ∈ c.volumeMounts, Survives (readList VolumeMount.ofJson?)
      (fun l => .arr (l.map VolumeMount.toJson)) l := fun l _ => survives_list fun m _ => m.survives
  have hcontext := fun s hs => SecurityContext.survives (h.securityContext s hs)
  have hreadiness := fun p hp => Probe.survives (h.readinessProbe p hp)
  have hstartup := fun p hp => Probe.survives (h.startupProbe p hp)
  have hliveness := fun p hp => Probe.survives (h.livenessProbe p hp)
  refine ⟨?_, ?_, record_ne_null _⟩
  · refine reads_bind (readObject_record _) <|
      reads_bind (x := c.name) ?_ <| reads_bind (x := c.image) ?_ <|
      reads_bind (x := c.command) ?_ <| reads_bind (x := c.args) ?_ <|
      reads_bind (x := c.env) ?_ <| reads_bind (x := c.resources) ?_ <|
      reads_bind (x := c.imagePullPolicy) ?_ <| reads_bind (x := c.securityContext) ?_ <|
      reads_bind (x := c.stdin) ?_ <| reads_bind (x := c.tty) ?_ <|
      reads_bind (x := c.volumeMounts) ?_ <| reads_bind (x := c.readinessProbe) ?_ <|
      reads_bind (x := c.startupProbe) ?_ <| reads_bind (x := c.livenessProbe) ?_ rfl
    all_goals
      simp [optional_def, lenient_def, optionalOf_map, optionalOf_singleton, Resources.survives,
        optionalOf_map henv, optionalOf_map hmounts, optionalOf_map hcontext,
        optionalOf_map hreadiness, optionalOf_map hstartup, optionalOf_map hliveness]
  · simp [toJson, plainMember_map, (Resources.survives _).plain,
      plainMember_map fun l hl => (henv l hl).plain,
      plainMember_map fun l hl => (hmounts l hl).plain,
      plainMember_map fun s hs => (hcontext s hs).plain,
      plainMember_map fun p hp => (hreadiness p hp).plain,
      plainMember_map fun p hp => (hstartup p hp).plain,
      plainMember_map fun p hp => (hliveness p hp).plain]

/-! ## Affinity -/

theorem LabelRequirement.survives (r : LabelRequirement) : Survives ofJson? toJson r := by
  refine ⟨?_, ?_, record_ne_null _⟩
  · simp [ofJson?, toJson, lenient_def, optional_def, optionalOf_map, optionalOf_singleton]
  · simp [toJson, plainMember_map]

theorem AffinityTerm.survives_selector (s : Option (List LabelRequirement)) :
    Survives selectorOfJson? (fun s => .record [
      ("matchExpressions", s.map fun l => .arr (l.map LabelRequirement.toJson))]) s := by
  have hlist : ∀ l ∈ s, Survives (readList LabelRequirement.ofJson?)
      (fun l => .arr (l.map LabelRequirement.toJson)) l := fun l _ =>
    survives_list fun r _ => r.survives
  refine ⟨?_, ?_, record_ne_null _⟩
  · simp [selectorOfJson?, optional_def, optionalOf_map hlist]
  · simp [plainMember_map fun l hl => (hlist l hl).plain]

theorem AffinityTerm.survives (t : AffinityTerm) : Survives ofJson? toJson t := by
  refine ⟨?_, ?_, record_ne_null _⟩
  · simp [ofJson?, toJson, lenient_def, optional_def, optionalOf_map, optionalOf_singleton,
      survives_selector]
  · simp [toJson, plainMember_map fun s (_ : s ∈ t.requirements) => (survives_selector s).plain]

def WeightedTerm.Fits (t : WeightedTerm) : Prop := IsInt32 t.weight

theorem WeightedTerm.survives {t : WeightedTerm} (h : t.Fits) : Survives ofJson? toJson t := by
  refine ⟨?_, ?_, record_ne_null _⟩
  · simp [ofJson?, toJson, lenient_def, optionalOf_singleton t.term.survives,
      optionalOf_singleton (survives_int32 h)]
  · simp [toJson, t.term.survives.plain, (survives_int32 h).plain]

def Affinity.Fits (a : Affinity) : Prop := ∀ p ∈ a.avoided, ∀ l ∈ p, ∀ t ∈ l, WeightedTerm.Fits t

theorem Affinity.survives_avoided {p : Option (List WeightedTerm)}
    (h : ∀ l ∈ p, ∀ t ∈ l, WeightedTerm.Fits t) : Survives avoidedOfJson? (fun p => .record [
      ("preferredDuringSchedulingIgnoredDuringExecution",
        p.map fun l => .arr (l.map WeightedTerm.toJson))]) p := by
  have hlist : ∀ l ∈ p, Survives (readList WeightedTerm.ofJson?)
      (fun l => .arr (l.map WeightedTerm.toJson)) l := fun l hl =>
    survives_list fun t ht => WeightedTerm.survives (h l hl t ht)
  refine ⟨?_, ?_, record_ne_null _⟩
  · simp [avoidedOfJson?, optional_def, optionalOf_map hlist]
  · simp [plainMember_map fun l hl => (hlist l hl).plain]

theorem Affinity.survives {a : Affinity} (h : a.Fits) : Survives ofJson? toJson a := by
  have havoided := fun p hp => survives_avoided (h p hp)
  refine ⟨?_, ?_, record_ne_null _⟩
  · simp [ofJson?, toJson, optional_def, optionalOf_map havoided]
  · simp [toJson, plainMember_map fun p hp => (havoided p hp).plain]

/-! ## Pods -/

structure PodSpec.Fits (s : PodSpec) : Prop where
  containers : ∀ c ∈ s.containers, c.Fits
  affinity : ∀ a ∈ s.affinity, a.Fits
  terminationGracePeriodSeconds : ∀ n ∈ s.terminationGracePeriodSeconds, IsInt64 n
  volumes : ∀ l ∈ s.volumes, ∀ v ∈ l, v.source.Fits

theorem PodSpec.survives {s : PodSpec} (h : s.Fits) : Survives ofJson? toJson s := by
  have hcontainers : Survives (readList Container.ofJson?)
      (fun l => .arr (l.map Container.toJson)) s.containers :=
    survives_list fun c hc => Container.survives (h.containers c hc)
  have hread : optionalOf (readList Container.ofJson?)
      [.arr (s.containers.map Container.toJson)] = some (some s.containers) :=
    optionalOf_singleton hcontainers
  have haffinity := fun a ha => Affinity.survives (h.affinity a ha)
  have hperiod := fun n hn => survives_int64 (h.terminationGracePeriodSeconds n hn)
  have hvolumes : ∀ l ∈ s.volumes, Survives (readList Volume.ofJson?)
      (fun l => .arr (l.map Volume.toJson)) l := fun l hl =>
    survives_list fun v hv => Volume.survives (h.volumes l hl v hv)
  refine ⟨?_, ?_, record_ne_null _⟩
  · simp [ofJson?, toJson, lenient_def, optional_def, optionalOf_map, hread,
      optionalOf_map haffinity, optionalOf_map hperiod, optionalOf_map hvolumes]
  · simp [toJson, plainMember_map, hcontainers.plain,
      plainMember_map fun a ha => (haffinity a ha).plain,
      plainMember_map fun n hn => (hperiod n hn).plain,
      plainMember_map fun l hl => (hvolumes l hl).plain]

def ContainerStatus.Fits (s : ContainerStatus) : Prop := IsInt32 s.restartCount

theorem ContainerStatus.survives {s : ContainerStatus} (h : s.Fits) :
    Survives ofJson? toJson s := by
  refine ⟨?_, ?_, record_ne_null _⟩
  · simp [ofJson?, toJson, lenient_def, optionalOf_singleton,
      optionalOf_singleton (survives_int32 h)]
  · simp [toJson, (survives_int32 h).plain]

structure PodStatus.Fits (s : PodStatus) : Prop where
  containerStatuses : ∀ l ∈ s.containerStatuses, ∀ c ∈ l, ContainerStatus.Fits c
  initContainerStatuses : ∀ l ∈ s.initContainerStatuses, ∀ c ∈ l, ContainerStatus.Fits c

theorem PodStatus.survives_address (ip : String) : Survives addressOfJson? addressJson ip := by
  refine ⟨?_, ?_, record_ne_null _⟩
  · simp [addressOfJson?, addressJson, lenient_def, optionalOf_singleton]
  · simp [addressJson]

theorem PodStatus.survives {s : PodStatus} (h : s.Fits) : Survives ofJson? toJson s := by
  have hstatuses : ∀ x : Option (List ContainerStatus), (∀ l ∈ x, ∀ c ∈ l, c.Fits) → ∀ l ∈ x,
      Survives (readList ContainerStatus.ofJson?)
        (fun l => .arr (l.map ContainerStatus.toJson)) l := fun x hx l hl =>
    survives_list fun c hc => ContainerStatus.survives (hx l hl c hc)
  have hcontainers := hstatuses _ h.containerStatuses
  have hinit := hstatuses _ h.initContainerStatuses
  have haddresses : ∀ l ∈ s.podIPs, Survives (readList addressOfJson?)
      (fun l => .arr (l.map addressJson)) l := fun l _ =>
    survives_list fun ip _ => survives_address ip
  refine ⟨?_, ?_, record_ne_null _⟩
  · simp [ofJson?, toJson, optional_def, optionalOf_map, optionalOf_map hcontainers,
      optionalOf_map hinit, optionalOf_map haddresses]
  · simp [toJson, plainMember_map, plainMember_map fun l hl => (hcontainers l hl).plain,
      plainMember_map fun l hl => (hinit l hl).plain,
      plainMember_map fun l hl => (haddresses l hl).plain]

structure Pod.Fits (p : Pod) : Prop where
  metadata : p.metadata.Fits
  spec : ∀ s ∈ p.spec, s.Fits
  status : ∀ s ∈ p.status, s.Fits

theorem Pod.survives {p : Pod} (h : p.Fits) : Survives ofJson? toJson p := by
  have hmetadata := Metadata.survives h.metadata
  have hspec := fun s hs => PodSpec.survives (h.spec s hs)
  have hstatus := fun s hs => PodStatus.survives (h.status s hs)
  refine ⟨?_, ?_, record_ne_null _⟩
  · refine reads_bind (readObject_record _) <| reads_bind (guard_of ?_) <|
      reads_bind (x := p.metadata) ?_ <| reads_bind (x := p.spec) ?_ <|
      reads_bind (x := p.status) ?_ rfl
    all_goals
      simp [ResourceKind.typeMembers, ResourceKind.admits, lenient_def, optional_def,
        optionalOf_singleton hmetadata, optionalOf_map hspec, optionalOf_map hstatus]
  · simp [toJson, ResourceKind.typeMembers, hmetadata.plain,
      plainMember_map fun s hs => (hspec s hs).plain,
      plainMember_map fun s hs => (hstatus s hs).plain]

/-! ## Configurations -/

theorem readLast_nonemptyDict (d : Dict String String) :
    (readLast (readDict readString)
      ((nonemptyDict d).map ofStrings).toList).map (fun x => x.getD {}) = some d := by
  rw [nonemptyDict]
  split
  · next h =>
    rw [Dict.isEmpty_iff.1 h]
    rfl
  · exact congrArg (Option.map _) (readLast_singleton (survives_ofStrings d))

theorem PersistentVolume.survives (v : PersistentVolume) : Survives ofJson? toJson v := by
  have hrequests := readLast_singleton (survives_ofStrings v.requests)
  refine ⟨?_, ?_, record_ne_null _⟩
  · simp [ofJson?, toJson, readRecord_record, required, defaulted_def,
      readLast_singleton, hrequests]
  · simp [toJson]

theorem NodeConfigSpec.survives (s : NodeConfigSpec) : Survives ofJson? toJson s := by
  have hvolumes : ∀ v ∈ s.persistentVolumes,
      Survives PersistentVolume.ofJson? PersistentVolume.toJson v := fun v _ => v.survives
  refine ⟨?_, ?_, record_ne_null _⟩
  · simp [-List.isEmpty_iff, ofJson?, toJson, readRecord_record, required,
      optional_def, defaulted_def, optionalOf_map, readLast_singleton,
      readLast_nonemptyDict, readLast_unlessEmpty hvolumes]
  · simp [-List.isEmpty_iff, toJson, plainMember_map, plainMember_unlessEmpty hvolumes]

/-! ## Intents -/

theorem ConfigReference.survives (r : ConfigReference) : Survives ofJson? toJson r := by
  refine ⟨?_, ?_, record_ne_null _⟩
  · simp [ofJson?, toJson, readRecord_record, required, optional_def, optionalOf_map,
      readLast_singleton]
  · simp [toJson, plainMember_map]

theorem NodeIntentSpec.survives (s : NodeIntentSpec) : Survives ofJson? toJson s := by
  refine ⟨?_, ?_, record_ne_null _⟩
  · simp [ofJson?, toJson, readRecord_record, required, optional_def, optionalOf_map,
      readLast_singleton, ConfigReference.survives]
  · simp [toJson, plainMember_map, (ConfigReference.survives _).plain]

theorem ConditionType.ofWord?_word (t : ConditionType) : ofWord? t.word = some t := by
  cases t
  rfl

theorem ConditionStatus.ofWord?_word (s : ConditionStatus) : ofWord? s.word = some s := by
  cases s <;> rfl

theorem ConditionReason.ofWord?_word (r : ConditionReason) : ofWord? r.word = some r := by
  cases r <;> rfl

namespace Condition

/-- A condition as it is written, but for the timestamp. -/
def jsonSince (c : Condition) (timestamp : String) : Json := .record [
  ("type", some (.str c.type.word)),
  ("status", some (.str c.status.word)),
  ("reason", some (.str c.reason.word)),
  ("message", some (.str c.message)),
  ("lastTransitionTime", some (.str timestamp))]

/-- Any timestamp will do that is read as the time of the transition. -/
theorem ofJson?_jsonSince {c : Condition} {timestamp : String}
    (h : Instant.read? timestamp = some c.lastTransitionTime) :
    ofJson? (c.jsonSince timestamp) = some c := by
  have htype := readLast_singleton (survives_word c.type.ofWord?_word)
  have hstatus := readLast_singleton (survives_word c.status.ofWord?_word)
  have hreason := readLast_singleton (survives_word c.reason.ofWord?_word)
  have hmessage := readLast_singleton (survives_string c.message)
  have htime : readLast Metadata.readInstant [.str timestamp] =
      some (some c.lastTransitionTime) := by
    simp [readLast, Metadata.readInstant, readString, h]
  simp [ofJson?, jsonSince, readRecord_record, required, defaulted_def, htype, hstatus, hreason,
    htime, hmessage]

/-- A condition survives with the time of its transition, to the nanosecond. -/
theorem survives {c : Condition} (h : c.lastTransitionTime.Recordable) :
    Survives ofJson? toJson c where
  reads := ofJson?_jsonSince (Instant.read?_text h)
  plain := by simp [toJson]
  present := record_ne_null _

end Condition

theorem NodeIntentStatus.survives {s : NodeIntentStatus}
    (h : ∀ c ∈ s.conditions, c.lastTransitionTime.Recordable) : Survives ofJson? toJson s := by
  have hconditions : ∀ c ∈ s.conditions, Survives Condition.ofJson? Condition.toJson c :=
    fun c hc => Condition.survives (h c hc)
  refine ⟨?_, ?_, record_ne_null _⟩
  · simp [-List.isEmpty_iff, ofJson?, toJson, readRecord_record, defaulted_def,
      readLast_unlessEmpty hconditions]
  · simp [-List.isEmpty_iff, toJson, plainMember_unlessEmpty hconditions]

structure NodeIntent.Fits (i : NodeIntent) : Prop where
  metadata : i.metadata.Fits
  status : ∀ s ∈ i.status, ∀ c ∈ s.conditions, c.lastTransitionTime.Recordable

theorem NodeIntent.survives {i : NodeIntent} (h : i.Fits) : Survives ofJson? toJson i := by
  have hmetadata := Metadata.survives h.metadata
  have hspec := NodeIntentSpec.survives i.spec
  have hstatus := fun s hs => NodeIntentStatus.survives (h.status s hs)
  refine ⟨?_, ?_, record_ne_null _⟩
  · simp [ofJson?, toJson, ResourceKind.typeMembers, readRecord_record, required, optional_def,
      readLast_singleton hmetadata, readLast_singleton hspec, optionalOf_map hstatus]
  · simp [toJson, ResourceKind.typeMembers, hmetadata.plain, hspec.plain,
      plainMember_map fun s hs => (hstatus s hs).plain]

end NodeDeploy
