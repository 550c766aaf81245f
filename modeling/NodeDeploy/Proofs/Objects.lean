import Mathlib.Tactic.ByContra
import NodeDeploy.Driver.Basic

/-! # The objects of a node

What a driver builds for an intent can only fail for want of the identity of the intent: its
namespace, its name and its uid.

* `partName_eq_iff`: when parts of two nodes have the same name.
* `NodeIntent.Identified`: the three are known.
* `claims_of_identified`, `attachments_of_identified` and `workload_of_identified`: then everything
  can be built. `claims_eq_nil` and `attachments_eq_nil`: otherwise nothing is.
* `ownedMetadata_spec`, `volumeClaim_spec` and `networkAttachment_spec`: the key and the owner of
  what is built.
* `attachments_injective`: two attachments of a node with the same key are the same.
* `pod_of_workload`: the drivers differ in the specification and the networks of their pods only.
  `workload_spec`: the pod of a node lies under the key of the intent and carries the revision of
  `Driver.podSpec`.
-/

namespace NodeDeploy

/-! ## Values and errors -/

theorem bind_eq_ok_iff {α β ε : Type} {x : Except ε α} {f : α → Except ε β} {y : β} :
    x >>= f = .ok y ↔ ∃ a, x = .ok a ∧ f a = .ok y := by
  rcases x with e | a
  · refine ⟨fun h => ?_, fun ⟨b, hb, _⟩ => ?_⟩
    · cases h
    · cases hb
  · refine ⟨fun h => ⟨a, rfl, h⟩, fun ⟨b, hb, h⟩ => ?_⟩
    cases hb
    exact h

theorem mapError_eq_ok_iff {α ε φ : Type} {x : Except ε α} {g : ε → φ} {a : α} :
    x.mapError g = .ok a ↔ x = .ok a := by
  rcases x with e | b <;> simp [Except.mapError]

theorem bind_eq_error_iff {α β ε : Type} {x : Except ε α} {f : α → Except ε β} {e : ε} :
    x >>= f = .error e ↔ x = .error e ∨ ∃ a, x = .ok a ∧ f a = .error e := by
  rcases x with d | a
  · show Except.error d = _ ↔ _
    simp
  · show f a = _ ↔ _
    simp

theorem mapError_eq_error_iff {α ε φ : Type} {x : Except ε α} {g : ε → φ} {f : φ} :
    x.mapError g = .error f ↔ ∃ e, x = .error e ∧ g e = f := by
  rcases x with e | b <;> simp [Except.mapError]

theorem mapM_cons_eq_ok {α β ε : Type} {f : α → Except ε β} {x : α} {l : List α} {r : List β}
    (h : (x :: l).mapM f = .ok r) : ∃ y s, f x = .ok y ∧ l.mapM f = .ok s ∧ r = y :: s := by
  rw [List.mapM_cons] at h
  rcases hx : f x with e | y
  · rw [hx] at h
    cases h
  · rcases hl : l.mapM f with e | s
    · rw [hx, hl] at h
      cases h
    · rw [hx, hl] at h
      exact ⟨y, s, rfl, rfl, (Except.ok.inj h).symm⟩

theorem exists_of_mem_mapM {α β ε : Type} {f : α → Except ε β} {l : List α} {r : List β}
    (h : l.mapM f = .ok r) {y : β} (hy : y ∈ r) : ∃ x ∈ l, f x = .ok y := by
  induction l generalizing r with
  | nil =>
    obtain rfl : r = [] := (Except.ok.inj h).symm
    exact absurd hy List.not_mem_nil
  | cons x l ih =>
    obtain ⟨z, s, hz, hs, rfl⟩ := mapM_cons_eq_ok h
    rcases List.mem_cons.1 hy with rfl | hy
    · exact ⟨x, List.mem_cons_self, hz⟩
    · obtain ⟨w, hw, he⟩ := ih hs hy
      exact ⟨w, List.mem_cons_of_mem x hw, he⟩

theorem mem_of_mapM {α β ε : Type} {f : α → Except ε β} {l : List α} {r : List β}
    (h : l.mapM f = .ok r) {x : α} (hx : x ∈ l) : ∃ y ∈ r, f x = .ok y := by
  induction l generalizing r with
  | nil => exact absurd hx List.not_mem_nil
  | cons z l ih =>
    obtain ⟨y, s, hy, hs, rfl⟩ := mapM_cons_eq_ok h
    rcases List.mem_cons.1 hx with rfl | hx
    · exact ⟨y, List.mem_cons_self, hy⟩
    · obtain ⟨w, hw, he⟩ := ih hs hx
      exact ⟨w, List.mem_cons_of_mem y hw, he⟩

/-- What can be told of each result from what it was made of can be told of all results. -/
theorem map_eq_of_mapM {α β γ ε : Type} {f : α → Except ε β} {g : β → γ} {g' : α → γ} {l : List α}
    {r : List β} (h : l.mapM f = .ok r) (hg : ∀ x y, f x = .ok y → g y = g' x) :
    r.map g = l.map g' := by
  induction l generalizing r with
  | nil =>
    obtain rfl : [] = r := Except.ok.inj h
    rfl
  | cons x l ih =>
    obtain ⟨y, s, hy, hs, rfl⟩ := mapM_cons_eq_ok h
    rw [List.map_cons, List.map_cons, hg x y hy, ih hs]

theorem mapM_eq_nil_iff {α β ε : Type} {f : α → Except ε β} {l : List α} {r : List β}
    (h : l.mapM f = .ok r) : r = [] ↔ l = [] := by
  rcases l with _ | ⟨x, l⟩
  · obtain rfl : [] = r := Except.ok.inj h
    simp
  · obtain ⟨y, s, -, -, rfl⟩ := mapM_cons_eq_ok h
    simp

theorem mapM_of_forall {α β ε : Type} {f : α → Except ε β} {l : List α}
    (h : ∀ x ∈ l, ∃ y, f x = .ok y) : ∃ r, l.mapM f = .ok r := by
  induction l with
  | nil => exact ⟨[], rfl⟩
  | cons x l ih =>
    obtain ⟨y, hy⟩ := h x List.mem_cons_self
    obtain ⟨r, hr⟩ := ih fun z hz => h z (List.mem_cons_of_mem x hz)
    refine ⟨y :: r, ?_⟩
    rw [List.mapM_cons, hy, hr]
    rfl

/-! ## Names of parts -/

/-- The parts of two nodes have the same name: they are the same part of the same node, or the name
of one node begins with that of the other, and the name of the other's part makes up for it. -/
def Overlap (a v b w : String) : Prop :=
  (a = b ∧ v = w) ∨
    ∃ s, (b = partName a s ∧ v = partName s w) ∨ (a = partName b s ∧ w = partName s v)

theorem toList_partName (a v : String) : (partName a v).toList = a.toList ++ '-' :: v.toList := by
  simp [partName]

theorem length_partName (a v : String) : (partName a v).length = a.length + 1 + v.length := by
  have h : "-".length = 1 := rfl
  rw [partName, String.length_append, String.length_append, h]

/-- Where one name goes on after the other, it goes on with a dash. -/
theorem parts_of_append {a v b w : String} {l : List Char} (hb : b.toList = a.toList ++ l)
    (hv : '-' :: v.toList = l ++ '-' :: w.toList) :
    (a = b ∧ v = w) ∨ ∃ s, b = partName a s ∧ v = partName s w := by
  rcases l with _ | ⟨c, s⟩
  · exact .inl ⟨String.toList_inj.1 (by simp [hb]), String.toList_inj.1 (by simpa using hv)⟩
  · obtain ⟨rfl, hrest⟩ := List.cons.inj hv
    refine .inr ⟨String.ofList s, String.toList_inj.1 ?_, String.toList_inj.1 ?_⟩
    · rw [toList_partName, String.toList_ofList, hb]
    · rw [toList_partName, String.toList_ofList]
      exact hrest

/-- **When parts have the same name.** A dash in a name cannot be told from the one that joins the
names of a node and its part. -/
theorem partName_eq_iff {a v b w : String} : partName a v = partName b w ↔ Overlap a v b w := by
  constructor
  · intro h
    have hlist := congrArg String.toList h
    rw [toList_partName, toList_partName, List.append_eq_append_iff] at hlist
    -- The name of one of the nodes begins with that of the other.
    rcases hlist with ⟨l, hb, hv⟩ | ⟨l, ha, hw⟩
    · rcases parts_of_append hb hv with h | ⟨s, h⟩
      · exact .inl h
      · exact .inr ⟨s, .inl h⟩
    · rcases parts_of_append ha hw with ⟨rfl, rfl⟩ | ⟨s, h⟩
      · exact .inl ⟨rfl, rfl⟩
      · exact .inr ⟨s, .inr h⟩
  · rintro (⟨rfl, rfl⟩ | ⟨s, ⟨rfl, rfl⟩ | ⟨rfl, rfl⟩⟩) <;>
      simp only [partName, String.append_assoc]

/-- Parts whose names are equally long tell their nodes apart. -/
theorem partName_inj_of_length {a v b w : String} (hl : v.length = w.length)
    (h : partName a v = partName b w) : a = b ∧ v = w := by
  rcases partName_eq_iff.1 h with h | ⟨s, ⟨-, rfl⟩ | ⟨-, rfl⟩⟩
  · exact h
  · rw [length_partName] at hl
    omega
  · rw [length_partName] at hl
    omega

/-! ## Identity -/

/-- The namespace, the name and the uid of an intent are known. -/
def NodeIntent.Identified (i : NodeIntent) : Prop :=
  i.metadata.ns.isSome ∧ i.metadata.name.isSome ∧ i.metadata.uid.isSome

instance (i : NodeIntent) : Decidable i.Identified := inferInstanceAs (Decidable (_ ∧ _ ∧ _))

namespace NodeIntent

variable {i : NodeIntent}

theorem objectKey_eq {ns : String} (h : i.metadata.ns = some ns) :
    i.objectKey = .ok i.metadata.key := by
  rw [objectKey, h, Metadata.key, h]
  rfl

/-- What an identified intent owns lies in its namespace and names it as its controller. -/
theorem ownedMetadata_of_identified (h : i.Identified) : ∃ ns name uid,
    i.metadata.ns = some ns ∧ i.metadata.name = some name ∧ i.metadata.uid = some uid ∧
    ∀ part, i.ownedMetadata part = .ok {
      name := some part
      ns := some ns
      ownerReferences := some [⟨ResourceKind.nodeIntent.apiVersion, ResourceKind.nodeIntent.kind,
        name, uid, some true⟩] } := by
  obtain ⟨hns, hname, huid⟩ := h
  obtain ⟨ns, hns⟩ := Option.isSome_iff_exists.1 hns
  obtain ⟨name, hname⟩ := Option.isSome_iff_exists.1 hname
  obtain ⟨uid, huid⟩ := Option.isSome_iff_exists.1 huid
  refine ⟨ns, name, uid, hns, hname, huid, fun part => ?_⟩
  rw [ownedMetadata, objectKey_eq hns, ownerReference?, hname, huid, Metadata.key, hns]
  rfl

theorem ownedMetadata_of_not_identified (h : ¬i.Identified) (name : String) :
    ∃ f, i.ownedMetadata name = .error f := by
  rw [ownedMetadata, objectKey]
  cases hns : i.metadata.ns with
  | none => exact ⟨_, rfl⟩
  | some ns =>
    have ho : i.ownerReference? = none := by
      rw [ownerReference?]
      cases hname : i.metadata.name with
      | none => rfl
      | some name =>
        cases huid : i.metadata.uid with
        | none => rfl
        | some uid => exact absurd (by simp [Identified, hns, hname, huid]) h
    simp only [ho]
    exact ⟨_, rfl⟩

/-- The metadata of what an intent owns say nothing but the name, the namespace and the owner. -/
theorem ownedMetadata_eq {part : String} {d : Metadata} (h : i.ownedMetadata part = .ok d) :
    i.Identified ∧ ∃ o, i.ownerReference? = some o ∧
      d = { name := some part, ns := i.metadata.ns, ownerReferences := some [o] } := by
  by_cases hi : i.Identified
  · obtain ⟨ns, name, uid, hns, hname, huid, hm⟩ := ownedMetadata_of_identified hi
    obtain rfl := Except.ok.inj ((hm part).symm.trans h)
    rw [ownerReference?, hname, huid, hns]
    exact ⟨hi, _, rfl, rfl⟩
  · obtain ⟨f, hf⟩ := ownedMetadata_of_not_identified hi part
    rw [hf] at h
    cases h

/-- **What an intent owns** lies in its namespace and belongs to it alone. -/
theorem ownedMetadata_spec {part : String} {d : Metadata} (h : i.ownedMetadata part = .ok d) :
    i.Identified ∧ d.ns = i.metadata.ns ∧ d.key = ⟨i.metadata.key.ns, part⟩ ∧
      ∃ o, i.ownerReference? = some o ∧ d.owners = [o] := by
  obtain ⟨hi, o, ho, rfl⟩ := ownedMetadata_eq h
  exact ⟨hi, rfl, rfl, o, ho, rfl⟩

/-! ## Claims and attachments -/

theorem volumeClaim_of_identified (h : i.Identified) (v : PersistentVolume) :
    ∃ c, i.volumeClaim v = .ok c := by
  obtain ⟨ns, name, uid, -, -, -, hm⟩ := ownedMetadata_of_identified h
  rw [volumeClaim, hm]
  exact ⟨_, rfl⟩

/-- A claim is named after its intent and its volume, and belongs to the intent. -/
theorem volumeClaim_spec {v : PersistentVolume} {c : VolumeClaim} (h : i.volumeClaim v = .ok c) :
    i.Identified ∧ c.metadata.key = ⟨i.metadata.key.ns, partName i.metadata.displayName v.name⟩ ∧
      ∃ o, i.ownerReference? = some o ∧ c.metadata.owners = [o] := by
  obtain ⟨d, hd, hc⟩ := bind_eq_ok_iff.1 h
  obtain rfl := Except.ok.inj hc
  obtain ⟨hi, -, hkey, howners⟩ := ownedMetadata_spec hd
  exact ⟨hi, hkey, howners⟩

theorem networkAttachment_of_identified (h : i.Identified) (interface : String) :
    ∃ a, i.networkAttachment interface = .ok a := by
  obtain ⟨ns, name, uid, -, -, -, hm⟩ := ownedMetadata_of_identified h
  rw [networkAttachment, hm]
  exact ⟨_, rfl⟩

/-- An attachment is named after its intent and its interface. -/
theorem networkAttachment_spec {interface : String} {a : NetworkAttachment}
    (h : i.networkAttachment interface = .ok a) :
    i.Identified ∧
      a.metadata.key = ⟨i.metadata.key.ns, partName i.metadata.displayName interface⟩ := by
  obtain ⟨d, hd, ha⟩ := bind_eq_ok_iff.1 h
  obtain rfl := Except.ok.inj ha
  obtain ⟨hi, -, hkey, -⟩ := ownedMetadata_spec hd
  exact ⟨hi, hkey⟩

theorem partName_injective {node a b : String} (h : partName node a = partName node b) : a = b :=
  (String.append_right_inj (node ++ "-")).1 h

/-! ## Pods -/

theorem pod_of_identified (h : i.Identified) (spec : PodSpec) (networks : Option String) :
    ∃ p, i.pod spec networks = .ok p := by
  obtain ⟨ns, name, uid, hns, -, -, hm⟩ := ownedMetadata_of_identified h
  rw [pod, objectKey_eq hns]
  simp only [bind, Except.bind, hm]
  exact ⟨_, rfl⟩

theorem objectKey_eq_ok {key : ObjectKey} (h : i.objectKey = .ok key) : key = i.metadata.key := by
  cases hns : i.metadata.ns with
  | none => simp [objectKey, hns] at h
  | some ns =>
    rw [objectKey_eq hns] at h
    exact (Except.ok.inj h).symm

theorem exists_of_pod {spec : PodSpec} {networks : Option String} {p : Pod}
    (h : i.pod spec networks = .ok p) : ∃ d, i.ownedMetadata i.metadata.displayName = .ok d ∧
      p = Pod.stamp {
        metadata := { d with
          labels := some (Dict.ofList [(topologyLabel, i.metadata.key.ns)])
          annotations := some (nodeAnnotations networks) }
        spec := some spec } := by
  obtain ⟨key, hkey, hbuilt⟩ := bind_eq_ok_iff.1 h
  obtain ⟨d, hd, hp⟩ := bind_eq_ok_iff.1 hbuilt
  obtain rfl := objectKey_eq_ok hkey
  exact ⟨d, hd, (Except.ok.inj hp).symm⟩

/-- The pod of a node lies under the key of the intent and carries the revision of its
specification. -/
theorem pod_spec {spec : PodSpec} {networks : Option String} {p : Pod}
    (h : i.pod spec networks = .ok p) :
    i.Identified ∧ p.metadata.ns = i.metadata.ns ∧ p.metadata.key = i.metadata.key ∧
      p.spec = some spec ∧ p.revision? = some spec.revision := by
  obtain ⟨d, hd, rfl⟩ := exists_of_pod h
  obtain ⟨hi, hns, hkey, -⟩ := ownedMetadata_spec hd
  exact ⟨hi, hns, hkey, rfl, Pod.revision_stamp _⟩

theorem owners_pod {spec : PodSpec} {networks : Option String} {p : Pod}
    (h : i.pod spec networks = .ok p) :
    ∃ o, i.ownerReference? = some o ∧ p.metadata.owners = [o] := by
  obtain ⟨d, hd, rfl⟩ := exists_of_pod h
  exact (ownedMetadata_spec hd).2.2.2

theorem networks_pod {spec : PodSpec} {networks : Option String} {p : Pod}
    (h : i.pod spec networks = .ok p) :
    p.metadata.annotation? networksAnnotation = networks := by
  obtain ⟨d, -, rfl⟩ := exists_of_pod h
  have hrevision : networksAnnotation ≠ revisionAnnotation := by decide
  have hmark : networksAnnotation ≠ wiringMark := by decide
  show ((nodeAnnotations networks).insert revisionAnnotation _).find? networksAnnotation = networks
  rw [Dict.find?_insert_ne _ hrevision]
  rcases networks with _ | text
  · exact Dict.find?_insert_ne _ hmark _
  · exact Dict.find?_insert_self _ _ _

end NodeIntent

namespace Driver

variable {d : Driver} {i : NodeIntent} {c : NodeConfig}

def interfaces : Driver → List String
  | .network _ family => family.interfaces
  | .server _ => []

def podSpec (d : Driver) (key : ObjectKey) (spec : NodeConfigSpec) : PodSpec :=
  match d with
  | .network layout family => layout.podSpec family key spec
  | .server _ => serverPodSpec key.name spec

theorem claims_of_identified (h : i.Identified) (c : NodeConfig) : ∃ l, d.claims i c = .ok l :=
  mapM_of_forall fun v _ => NodeIntent.volumeClaim_of_identified h v

/-- An intent that is not identified claims nothing. -/
theorem claims_eq_nil (h : ¬i.Identified) {l : List VolumeClaim} (hl : d.claims i c = .ok l) :
    l = [] := by
  refine List.eq_nil_iff_forall_not_mem.2 fun x hx => h ?_
  obtain ⟨v, -, hv⟩ := exists_of_mem_mapM hl hx
  exact (NodeIntent.volumeClaim_spec hv).1

theorem attachments_of_identified (h : i.Identified) : ∃ l, d.attachments i = .ok l := by
  cases d with
  | network layout family =>
    exact mapM_of_forall fun interface _ => NodeIntent.networkAttachment_of_identified h interface
  | server provider => exact ⟨[], rfl⟩

theorem exists_of_mem_attachments {l : List NetworkAttachment} (hl : d.attachments i = .ok l)
    {a : NetworkAttachment} (ha : a ∈ l) :
    ∃ interface ∈ d.interfaces, i.networkAttachment interface = .ok a := by
  cases d with
  | network layout family => exact exists_of_mem_mapM hl ha
  | server provider =>
    cases hl
    exact absurd ha List.not_mem_nil

theorem attachments_eq_nil (h : ¬i.Identified) {l : List NetworkAttachment}
    (hl : d.attachments i = .ok l) : l = [] := by
  refine List.eq_nil_iff_forall_not_mem.2 fun a ha => h ?_
  obtain ⟨interface, -, hi⟩ := exists_of_mem_attachments hl ha
  exact (NodeIntent.networkAttachment_spec hi).1

/-- **Attachments of a node with the same key are the same.** -/
theorem attachments_injective {l : List NetworkAttachment} (hl : d.attachments i = .ok l)
    {a b : NetworkAttachment} (ha : a ∈ l) (hb : b ∈ l) (h : a.metadata.key = b.metadata.key) :
    a = b := by
  obtain ⟨x, -, hx⟩ := exists_of_mem_attachments hl ha
  obtain ⟨y, -, hy⟩ := exists_of_mem_attachments hl hb
  have hxy : partName i.metadata.displayName x = partName i.metadata.displayName y := by
    rw [(NodeIntent.networkAttachment_spec hx).2, (NodeIntent.networkAttachment_spec hy).2] at h
    exact (ObjectKey.mk.inj h).2
  rw [NodeIntent.partName_injective hxy, hy] at hx
  exact (Except.ok.inj hx).symm

theorem workload_eq {ns : String} (hns : i.metadata.ns = some ns) (l : List NetworkAttachment) :
    d.workload i c l = i.pod (d.podSpec i.metadata.key c.spec)
      (match d with
        | .network _ _ => Wiring.selection? l
        | .server _ => none) := by
  rw [workload, NodeIntent.objectKey_eq hns]
  cases d <;> rfl

/-- What a driver builds is the pod of its layout, with its selection of networks. -/
theorem pod_of_workload {l : List NetworkAttachment} {p : Pod} : d.workload i c l = .ok p →
    i.pod (d.podSpec i.metadata.key c.spec)
      (match d with
        | .network _ _ => Wiring.selection? l
        | .server _ => none) = .ok p := by
  intro h
  cases hns : i.metadata.ns with
  | none => simp [workload, NodeIntent.objectKey, hns, bind, Except.bind] at h
  | some ns => rwa [workload_eq hns] at h

theorem workload_of_identified (h : i.Identified) (c : NodeConfig) (l : List NetworkAttachment) :
    ∃ p, d.workload i c l = .ok p := by
  obtain ⟨ns, hns⟩ := Option.isSome_iff_exists.1 h.1
  rw [workload_eq hns]
  exact NodeIntent.pod_of_identified h _ _

theorem not_identified_of_workload {l : List NetworkAttachment} {f : Failure}
    (h : d.workload i c l = .error f) : ¬i.Identified := by
  intro hi
  obtain ⟨p, hp⟩ := workload_of_identified (d := d) hi c l
  rw [hp] at h
  cases h

/-- **The pod of a node** lies under the key of its intent and carries the revision of its
specification. -/
theorem workload_spec {l : List NetworkAttachment} {p : Pod} (h : d.workload i c l = .ok p) :
    i.Identified ∧ p.metadata.ns = i.metadata.ns ∧ p.metadata.key = i.metadata.key ∧
      p.spec = some (d.podSpec i.metadata.key c.spec) ∧
      p.revision? = some (d.podSpec i.metadata.key c.spec).revision :=
  NodeIntent.pod_spec (pod_of_workload h)

end Driver

end NodeDeploy
