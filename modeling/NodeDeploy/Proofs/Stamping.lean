import NodeDeploy.Proofs.Mounts
import NodeDeploy.Proofs.Ownership

/-! # The identity of a pod

The pod of a node is told by its metadata: its namespace and name are those of the intent, the
intent is its one owner, its label says which topology it belongs to, and it is stamped with the
revision of its specification. Each driver lays out a pod of its own, but the metadata of all pods
are made in one place.

* `NodeIntent.Lacks` names the field for want of which nothing can be built for an intent.
  `workload_eq_error_iff`: there is no other reason.
* `Pod.StampedFor` is the identity of a pod. `stampedFor_workload`: what a driver builds has it.
* `Pod.Avoids`: a pod keeps away from another. `avoids_iff`: those of network devices keep away from
  the pods of their topology.
* `Engine.passBy` is a pass with another way to converge. `passBy_congr`: what counts is only what
  is done with the pods that drivers build.
* `pods_stamped`: so convergence never finds a pod without a namespace or a revision.
-/

namespace NodeDeploy

/-! ## What an intent may lack -/

/-- The field for want of which nothing can be built for an intent: the namespace or, if there is
one, the identity, which takes a name and a uid. -/
inductive NodeIntent.Lacks (i : NodeIntent) : String → Prop where
  | ns (h : i.metadata.ns = none) : i.Lacks "namespace"
  | name {ns : String} (hns : i.metadata.ns = some ns) (h : i.metadata.name = none) : i.Lacks "uid"
  | uid {ns : String} (hns : i.metadata.ns = some ns) (h : i.metadata.uid = none) : i.Lacks "uid"

namespace NodeIntent

variable {i : NodeIntent} {field : String}

theorem exists_lacks_iff : (∃ field, i.Lacks field) ↔ ¬i.Identified := by
  constructor
  · rintro ⟨field, h⟩ ⟨hns, hname, huid⟩
    cases h with
    | ns h => simp [h] at hns
    | name _ h => simp [h] at hname
    | uid _ h => simp [h] at huid
  · intro h
    cases hns : i.metadata.ns with
    | none => exact ⟨_, .ns hns⟩
    | some ns =>
      cases hname : i.metadata.name with
      | none => exact ⟨_, .name hns hname⟩
      | some name =>
        cases huid : i.metadata.uid with
        | none => exact ⟨_, .uid hns huid⟩
        | some uid => exact absurd (by simp [Identified, hns, hname, huid]) h

theorem ownedMetadata_of_lacks (h : i.Lacks field) (part : String) :
    i.ownedMetadata part = .error (.store (.missingField field)) := by
  cases h with
  | ns h =>
    rw [ownedMetadata, objectKey, h]
    rfl
  | name hns h =>
    rw [ownedMetadata, objectKey_eq hns, ownerReference?, h]
    rfl
  | uid hns h =>
    rw [ownedMetadata, objectKey_eq hns, ownerReference?, h]
    cases i.metadata.name <;> rfl

/-- The namespace is asked for first, so its want is what is told. -/
theorem Lacks.objectKey_eq (h : i.Lacks field) :
    i.objectKey = .error (.store (.missingField field)) ∨ ∃ ns, i.metadata.ns = some ns := by
  cases h with
  | ns h =>
    left
    rw [objectKey, h]
  | name hns => exact .inr ⟨_, hns⟩
  | uid hns => exact .inr ⟨_, hns⟩

theorem pod_of_lacks (h : i.Lacks field) (spec : PodSpec) (networks : Option String) :
    i.pod spec networks = .error (.store (.missingField field)) := by
  rcases h.objectKey_eq with hkey | ⟨ns, hns⟩
  · rw [pod, hkey]
    rfl
  · rw [pod, NodeIntent.objectKey_eq hns]
    show (i.ownedMetadata i.metadata.key.name >>= _) = _
    rw [ownedMetadata_of_lacks h]
    rfl

end NodeIntent

namespace Driver

variable {d : Driver} {i : NodeIntent} {c : NodeConfig} {l : List NetworkAttachment}

theorem workload_of_lacks {field : String} (h : i.Lacks field) (d : Driver) (c : NodeConfig)
    (l : List NetworkAttachment) :
    d.workload i c l = .error (.store (.missingField field)) := by
  rcases h.objectKey_eq with hkey | ⟨ns, hns⟩
  · rw [workload, hkey]
    rfl
  · rw [workload_eq hns, NodeIntent.pod_of_lacks h]

/-- **A pod cannot be built for want of the identity of the intent, and for no other reason.** -/
theorem workload_eq_error_iff {f : Failure} : d.workload i c l = .error f ↔
    ∃ field, i.Lacks field ∧ f = .store (.missingField field) := by
  constructor
  · intro h
    obtain ⟨field, hlacks⟩ := NodeIntent.exists_lacks_iff.2 (not_identified_of_workload h)
    exact ⟨field, hlacks, Except.error.inj (h.symm.trans (workload_of_lacks hlacks d c l))⟩
  · rintro ⟨field, hlacks, rfl⟩
    exact workload_of_lacks hlacks d c l

theorem exists_workload_iff : (∃ p, d.workload i c l = .ok p) ↔ i.Identified :=
  ⟨fun ⟨_, hp⟩ => (workload_spec hp).1, fun h => workload_of_identified h c l⟩

end Driver

/-! ## The identity of a pod -/

/-- A pod has the identity of an intent: its namespace, also as the label of its topology, its name
and the intent as its one owner; and it is stamped with the revision of its own specification, the
digest of its text. -/
structure Pod.StampedFor (p : Pod) (i : NodeIntent) : Prop where
  owned : p.metadata.ownership.BelongsTo i
  name : p.metadata.name = i.metadata.name
  labelled : p.metadata.label? topologyLabel = i.metadata.ns
  stamped : ∃ spec, p.spec = some spec ∧ p.revision? = some (Sha256.hex spec.text)

namespace NodeIntent

theorem stampedFor_pod {i : NodeIntent} {spec : PodSpec} {networks : Option String} {p : Pod}
    (h : i.pod spec networks = .ok p) : p.StampedFor i := by
  have howned := belongsTo_pod h
  obtain ⟨-, -, -, hspec, hrevision⟩ := pod_spec h
  obtain ⟨d, hd, rfl⟩ := exists_of_pod h
  obtain ⟨⟨hns, hname, -⟩, o, -, rfl⟩ := ownedMetadata_eq hd
  refine ⟨howned, ?_, ?_, spec, hspec, hrevision⟩
  · obtain ⟨name, hname⟩ := Option.isSome_iff_exists.1 hname
    show some i.metadata.displayName = i.metadata.name
    rw [Metadata.displayName, hname]
    rfl
  · obtain ⟨ns, hns⟩ := Option.isSome_iff_exists.1 hns
    show (Dict.ofList [(topologyLabel, i.metadata.key.ns)]).find? topologyLabel = i.metadata.ns
    rw [Metadata.key_of_ns hns, hns]
    exact Dict.find?_insert_self _ _ _

end NodeIntent

namespace Driver

variable {d : Driver} {i : NodeIntent} {c : NodeConfig} {l : List NetworkAttachment} {p : Pod}

/-- **What a driver builds has the identity of the intent.** -/
theorem stampedFor_workload (h : d.workload i c l = .ok p) : p.StampedFor i :=
  NodeIntent.stampedFor_pod (pod_of_workload h)

end Driver

/-! ## Pods that keep away from each other -/

/-- The labels are as a requirement by the operator `In` has them. -/
def LabelRequirement.Meets (r : LabelRequirement) (d : Metadata) : Prop :=
  r.operator = "In" ∧ ∃ value ∈ r.values.getD [], d.label? r.key = some value

namespace Pod

/-- The terms by which a pod keeps away from others. -/
def aversions (p : Pod) : List WeightedTerm :=
  (p.specOrEmpty.affinity.bind fun a => a.avoided.join).getD []

/-- A pod prefers a host without the other one, whose labels meet the requirements of a term. -/
def Avoids (p q : Pod) : Prop :=
  ∃ t ∈ p.aversions, t.term.topologyKey = "kubernetes.io/hostname" ∧
    ∃ l, t.term.requirements = some (some l) ∧ ∀ r ∈ l, r.Meets q.metadata

theorem avoids_of_antiAffinity {p q : Pod} {label value : String}
    (h : p.specOrEmpty.affinity = some (antiAffinity label value)) :
    p.Avoids q ↔ q.metadata.label? label = some value := by
  simp [Avoids, aversions, h, antiAffinity, LabelRequirement.Meets]

end Pod

namespace Driver

variable {d : Driver} {i j : NodeIntent} {c : NodeConfig} {l : List NetworkAttachment} {p q : Pod}

/-- **The pods of network devices keep away from the pods of their topology**, and those of plain
servers from none. -/
theorem avoids_iff (h : d.workload i c l = .ok p) (hq : q.StampedFor j) :
    p.Avoids q ↔ d.isNetwork = true ∧ j.metadata.ns = i.metadata.ns := by
  obtain ⟨⟨hns, -, -⟩, -, -, hspec, -⟩ := workload_spec h
  obtain ⟨ns, hns⟩ := Option.isSome_iff_exists.1 hns
  have hkey : i.metadata.key.ns = ns := congrArg ObjectKey.ns (Metadata.key_of_ns hns)
  cases d with
  | network layout family =>
    have haffinity : p.specOrEmpty.affinity = some (antiAffinity topologyLabel ns) := by
      rw [Pod.specOrEmpty, hspec, ← hkey]
      rfl
    rw [Pod.avoids_of_antiAffinity haffinity, hq.labelled, hns]
    exact (and_iff_right rfl).symm
  | server provider =>
    have hnone : p.aversions = [] := by
      rw [Pod.aversions, Pod.specOrEmpty, hspec]
      rfl
    simp [Pod.Avoids, hnone, isNetwork]

end Driver

/-! ## Convergence without its checks -/

section Converging

variable {σ : Type}

/-- Convergence, where something else is done about a pod that lacks a field. -/
def convergeOr (missing : String → Action σ Failure Convergence) (s : Store σ) (wanted : Pod) :
    Action σ Failure Convergence :=
  match wanted.metadata.ns, wanted.revision? with
  | none, _ => missing "namespace"
  | some _, none => missing "revision hash"
  | some _, some _ => converge s wanted

/-- What convergence itself does about it is to fail. -/
theorem convergeOr_fail (s : Store σ) :
    convergeOr (fun field => throw (.store (.missingField field))) s = converge s := by
  funext wanted
  rw [convergeOr, converge]
  cases wanted.metadata.ns with
  | none => rfl
  | some ns => cases wanted.revision? <;> rfl

theorem Pod.StampedFor.convergeOr_eq {p : Pod} {i : NodeIntent} (h : p.StampedFor i)
    (missing : String → Action σ Failure Convergence) (s : Store σ) :
    convergeOr missing s p = converge s p := by
  obtain ⟨ns, name, uid, -, -, -, howned⟩ := h.owned
  obtain ⟨spec, -, hrevision⟩ := h.stamped
  have hns : p.metadata.ns = some ns := congrArg Ownership.ns howned
  rw [convergeOr, hns, hrevision]

/-- What comes second counts only for the values that the first ends in. -/
theorem Action.bind_congr_of {ε α β : Type} {a : Action σ ε α} {f g : α → Action σ ε β}
    (h : ∀ x v y, a x = (.ok v, y) → f v = g v) : a >>= f = a >>= g := by
  funext x
  rw [run_bind, run_bind]
  rcases ha : a x with ⟨e | v, y⟩
  · rfl
  · exact congrFun (h x v y ha) y

namespace Engine

variable (e : Engine) (s : Store σ) (c : Connector σ) (key : ObjectKey)

/-- The way of an intent to a ready node, with some way to make the running pod the wanted one. -/
def deployBy (fit : Pod → Action σ Failure Convergence) (i : NodeIntent) : Action σ Stop Unit := do
  storeStep .resolving (s.addFinalizer i intentFinalizer)
  let (driver, config) ← step .resolving (e.resolve s i)
  let attachments ← step .attaching (e.attach s driver i config)
  let wanted ← step .converging (.ofExcept (driver.workload i config attachments))
  let _ ← step .converging (fit wanted)
  let addresses ← awaitReady s key
  step .bootstrapping (e.configure s c driver key.ns i addresses)

/-- A pass with some way to make the running pod the wanted one. -/
def passBy (fit : Pod → Action σ Failure Convergence) (now : Instant) :
    Action σ Failure Outcome := do
  match ← (s.getIntent key).mapError .store with
  | none => pure ⟨.fetching, .never⟩
  | some i =>
    if i.metadata.isDeleted then finalize s i now
    else
      let ended ← (e.deployBy s c key fit i).attempt
      conclude s i now ended

theorem passBy_converge (now : Instant) :
    e.passBy s c key (converge s) now = e.pass s c key now := rfl

variable {fit fit' : Pod → Action σ Failure Convergence}

/-- **Only pods that drivers build are converged.** -/
theorem deployBy_congr (i : NodeIntent)
    (h : ∀ (d : Driver) config l p, d.workload i config l = .ok p → fit p = fit' p) :
    e.deployBy s c key fit i = e.deployBy s c key fit' i := by
  refine congrArg (_ >>= ·) (funext fun _ => ?_)
  refine congrArg (_ >>= ·) (funext fun resolved => ?_)
  refine congrArg (_ >>= ·) (funext fun attachments => ?_)
  refine Action.bind_congr_of fun x wanted y hw => ?_
  have hbuilt : resolved.1.workload i resolved.2 attachments = .ok wanted := by
    rw [step, Action.run_mapError, Action.run_ofExcept] at hw
    exact mapError_eq_ok_iff.1 (congrArg Prod.fst hw)
  rw [h _ _ _ _ hbuilt]

theorem passBy_congr (now : Instant)
    (h : ∀ (d : Driver) i config l p, d.workload i config l = .ok p → fit p = fit' p) :
    e.passBy s c key fit now = e.passBy s c key fit' now := by
  refine congrArg (_ >>= ·) (funext fun found => ?_)
  rcases found with _ | i
  · rfl
  · dsimp only
    rw [deployBy_congr e s c key i fun d => h d i]

end Engine

end Converging

/-! ## The result -/

namespace Driver

/-- **Every driver builds pods that are identified and stamped.** It fails exactly if the intent has
no namespace or, having one, no name or no uid, and tells which field the object has not. Otherwise
the pod lies in the namespace of the intent, under its name, is owned by the intent alone, carries
the namespace as the label of its topology, by which the pods of network devices keep away from it,
and is stamped with the revision of its own specification. So a pass is the same whatever is done
about a pod that lacks a namespace or a revision when the workload is converged. -/
theorem pods_stamped (d : Driver) (i : NodeIntent) (c : NodeConfig)
    (attachments : List NetworkAttachment) :
    (∀ f, d.workload i c attachments = .error f ↔
      ∃ field, i.Lacks field ∧ f = .store (.missingField field)) ∧
    (∀ field, (Failure.store (.missingField field)).message = "object has no " ++ field) ∧
    ((∃ p, d.workload i c attachments = .ok p) ↔ i.Identified) ∧
    (∀ p, d.workload i c attachments = .ok p → p.StampedFor i ∧
      ∀ q j, q.StampedFor j → (p.Avoids q ↔ d.isNetwork = true ∧ j.metadata.ns = i.metadata.ns)) ∧
    ∀ (τ : Type) (s : Store τ),
      convergeOr (fun field => throw (.store (.missingField field))) s = converge s ∧
      ∀ (e : Engine) (link : Connector τ) key missing now,
        e.passBy s link key (convergeOr missing s) now = e.pass s link key now := by
  refine ⟨fun f => workload_eq_error_iff, fun field => rfl, exists_workload_iff, fun p hp => ?_,
    fun τ s => ⟨convergeOr_fail s, fun e link key missing now => ?_⟩⟩
  · exact ⟨stampedFor_workload hp, fun q j hq => avoids_iff hp hq⟩
  · rw [← Engine.passBy_converge]
    refine Engine.passBy_congr e s link key now fun d i config l p hp => ?_
    exact (stampedFor_workload hp).convergeOr_eq missing s

/-- The pod of the sample, which keeps away from pods like itself. -/
theorem pods_stamped_sample : Sample.intent.Identified ∧
    ∃ p, Driver.srLinux.workload Sample.intent (Sample.storing "srlinux.nokia.com") [] = .ok p ∧
      p.StampedFor Sample.intent ∧ p.Avoids p := by
  have hi : Sample.intent.Identified := by decide
  obtain ⟨-, -, hbuilt, hstamped, -⟩ :=
    pods_stamped .srLinux Sample.intent (Sample.storing "srlinux.nokia.com") []
  obtain ⟨p, hp⟩ := hbuilt.2 hi
  obtain ⟨hidentity, havoids⟩ := hstamped p hp
  exact ⟨hi, p, hp, hidentity, (havoids p Sample.intent hidentity).2 ⟨rfl, rfl⟩⟩

end Driver

end NodeDeploy
