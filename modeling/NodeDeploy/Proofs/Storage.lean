import NodeDeploy.Proofs.Isolation

/-! # The storage of nodes

A node claims storage under its own name followed by that of the volume, and takes a claim that is
already stored under such a name for its own. The two names are joined by a dash, and either may
have dashes of its own, so the claims of two nodes can meet; then both nodes get the storage of the
one that was first.

* `claims_meet_iff`: when the claims of two intents have the same key.
* `Attributed` says whose the stored claims and pods are. `Attributed.pass` and `Attributed.change`
  are the steps, and `attributed_after` the run.
* `storage_of_nodes`: a pod mounts the storage of its own node, unless the name of another node
  begins with that of this one and a dash, or the other way round.
* `storage_shared`: two such nodes do share.
-/

namespace NodeDeploy

/-! ## The claims that a pod mounts -/

def PodSpec.claimNames (s : PodSpec) : List String := (s.volumes.getD []).filterMap Volume.claim?

/-- The claims that a pod mounts. -/
def Pod.claimNames (p : Pod) : List String := p.specOrEmpty.claimNames

theorem Layout.claimNames_podSpec (l : Layout) (f : Family) (key : ObjectKey)
    (spec : NodeConfigSpec) : (l.podSpec f key spec).claimNames =
      spec.persistentVolumes.map fun v => partName key.name v.name := by
  have hfixed : (l.fixedVolumes f spec).filterMap Volume.claim? = [] := by
    cases l <;> rfl
  have hlicense :
      (spec.licenseKey.map (l.licenseVolume f)).toList.filterMap Volume.claim? = [] := by
    cases spec.licenseKey <;> rfl
  have hclaim (v : PersistentVolume) : (persistentVolume key.name v).claim? =
      some (partName key.name v.name) := rfl
  rw [PodSpec.claimNames, volumes_podSpec, Option.getD_some, volumes, List.filterMap_append,
    List.filterMap_append, hfixed, hlicense]
  simp only [Function.comp_def, List.filterMap_map, hclaim, List.nil_append, List.append_nil,
    List.filterMap_eq_map']

/-- A pod mounts claims for volumes of its configuration only. -/
theorem Driver.exists_of_mem_claimNames {d : Driver} {key : ObjectKey} {spec : NodeConfigSpec}
    {name : String} (h : name ∈ (d.podSpec key spec).claimNames) :
    ∃ v ∈ spec.persistentVolumes, name = partName key.name v.name := by
  cases d with
  | network layout family =>
    rw [podSpec, Layout.claimNames_podSpec] at h
    obtain ⟨v, hv, rfl⟩ := List.mem_map.1 h
    exact ⟨v, hv, rfl⟩
  | server provider => exact absurd h List.not_mem_nil

/-- The pod of a network device mounts a claim for each volume of its configuration. -/
theorem Engine.claimNames_of_plan {e : Engine} {m : Memory} {i : NodeIntent} {p : Plan}
    {layout : Layout} {family : Family} (hp : e.plan m i = .ok p)
    (hd : p.driver = .network layout family) : p.pod.claimNames =
      p.config.spec.persistentVolumes.map fun v => partName i.metadata.key.name v.name := by
  obtain ⟨-, -, -, hw⟩ := plan_eq_ok_iff.1 hp
  obtain ⟨-, -, -, hspec, -⟩ := Driver.workload_spec hw
  rw [Pod.claimNames, Pod.specOrEmpty, hspec, Option.getD_some, hd]
  exact Layout.claimNames_podSpec layout family _ _

/-! ## The claims of two intents -/

/-- **When claims of two intents have the same key**: the names of the nodes and their volumes
overlap. -/
theorem claims_meet_iff {i j : NodeIntent} {s t : NodeConfigSpec} {cs ds : List VolumeClaim}
    (hns : i.metadata.key.ns = j.metadata.key.ns) (hcs : i.volumeClaims s = .ok cs)
    (hds : j.volumeClaims t = .ok ds) :
    (∃ c ∈ cs, ∃ d ∈ ds, c.metadata.key = d.metadata.key) ↔
      ∃ v ∈ s.persistentVolumes, ∃ w ∈ t.persistentVolumes,
        Overlap i.metadata.displayName v.name j.metadata.displayName w.name := by
  have hkeys {v w : PersistentVolume} {c d : VolumeClaim} (hc : i.volumeClaim v = .ok c)
      (hd : j.volumeClaim w = .ok d) : c.metadata.key = d.metadata.key ↔
        Overlap i.metadata.displayName v.name j.metadata.displayName w.name := by
    rw [(NodeIntent.volumeClaim_spec hc).2.1, (NodeIntent.volumeClaim_spec hd).2.1,
      ObjectKey.mk.injEq, partName_eq_iff]
    exact and_iff_right hns
  constructor
  · rintro ⟨c, hc, d, hd, h⟩
    obtain ⟨v, hv, hvc⟩ := exists_of_mem_mapM hcs hc
    obtain ⟨w, hw, hwd⟩ := exists_of_mem_mapM hds hd
    exact ⟨v, hv, w, hw, (hkeys hvc hwd).1 h⟩
  · rintro ⟨v, hv, w, hw, h⟩
    obtain ⟨c, hc, hvc⟩ := mem_of_mapM hcs hv
    obtain ⟨d, hd, hwd⟩ := mem_of_mapM hds hw
    exact ⟨c, hc, d, hd, (hkeys hvc hwd).2 h⟩

/-! ## Whose the claims and the pods are -/

namespace Engine

variable {e : Engine} {m : Memory} {i : NodeIntent} {p : Plan}

theorem claim_of_plan (hp : e.plan m i = .ok p) {claim : VolumeClaim} (hc : claim ∈ p.claims) :
    ∃ v o, claim.metadata.key = ⟨i.metadata.key.ns, partName i.metadata.key.name v⟩ ∧
      i.ownerReference? = some o ∧ claim.metadata.owners = [o] := by
  obtain ⟨v, -, hv⟩ := exists_of_mem_mapM (plan_eq_ok_iff.1 hp).2.1 hc
  obtain ⟨-, hkey, o, howners⟩ := NodeIntent.volumeClaim_spec hv
  exact ⟨v.name, o, hkey, howners⟩

theorem claim_of_volume (hp : e.plan m i = .ok p) {v : PersistentVolume}
    (hv : v ∈ p.config.spec.persistentVolumes) : ∃ claim ∈ p.claims,
      claim.metadata.key = ⟨i.metadata.key.ns, partName i.metadata.key.name v.name⟩ := by
  obtain ⟨claim, hclaim, hbuilt⟩ := mem_of_mapM (plan_eq_ok_iff.1 hp).2.1 hv
  exact ⟨claim, hclaim, (NodeIntent.volumeClaim_spec hbuilt).2.1⟩

theorem owners_of_plan (hp : e.plan m i = .ok p) :
    ∃ o, i.ownerReference? = some o ∧ p.pod.metadata.owners = [o] := by
  obtain ⟨-, -, -, hw⟩ := plan_eq_ok_iff.1 hp
  exact NodeIntent.owners_pod (Driver.pod_of_workload hw)

theorem claim_of_mounted (hp : e.plan m i = .ok p) {name : String}
    (hname : name ∈ p.pod.claimNames) : (∃ v, name = partName i.metadata.key.name v) ∧
      ∃ claim ∈ p.claims, claim.metadata.key = ⟨i.metadata.key.ns, name⟩ := by
  obtain ⟨-, -, -, hspec, -⟩ := Driver.workload_spec (plan_eq_ok_iff.1 hp).2.2.2
  rw [Pod.claimNames, Pod.specOrEmpty, hspec, Option.getD_some] at hname
  obtain ⟨v, hv, rfl⟩ := Driver.exists_of_mem_claimNames hname
  exact ⟨⟨v.name, rfl⟩, claim_of_volume hp hv⟩

end Engine

/-- Every intent is the one that `owner` names for its key, every claim belongs to an intent of its
namespace whose name its own begins with, and every pod belongs to the intent of its key and mounts
stored claims under names that begin with that of the intent. -/
structure Attributed (owner : ObjectKey → Option OwnerReference) (m : Memory) : Prop where
  intents : ∀ k i, m.intents.find? k = some i → i.ownerReference? = owner k
  claims : ∀ c claim, m.claims.find? c = some claim → ∃ k v o,
    c = ⟨k.ns, partName k.name v⟩ ∧ owner k = some o ∧ claim.metadata.owners = [o]
  pods : ∀ k p, m.pods.find? k = some p →
    (∃ o, owner k = some o ∧ p.metadata.owners = [o]) ∧ ∀ name ∈ p.claimNames,
      (∃ v, name = partName k.name v) ∧ m.claims.contains ⟨k.ns, name⟩ = true

namespace Attributed

variable {owner : ObjectKey → Option OwnerReference} {e : Engine} {m : Memory} {i : NodeIntent}

theorem intents_of_core (h : Attributed owner m) {n : Memory}
    (hcore : ∀ k j, n.intents.find? k = some j →
      ∃ x, m.intents.find? k = some x ∧ j.core = x.core) :
    ∀ k j, n.intents.find? k = some j → j.ownerReference? = owner k := by
  intro k j hj
  obtain ⟨x, hx, hsame⟩ := hcore k j hj
  rw [← NodeIntent.ownerReference?_core, hsame, NodeIntent.ownerReference?_core]
  exact h.intents k x hx

/-- A pod keeps its claims on the way to a ready node. -/
theorem pod_kept (h : Attributed owner m) {k : ObjectKey} {q : Pod}
    (hq : m.pods.find? k = some q) (e : Engine) (i : NodeIntent) :
    (∃ o, owner k = some o ∧ q.metadata.owners = [o]) ∧ ∀ name ∈ q.claimNames,
      (∃ v, name = partName k.name v) ∧ (e.deployed i m).claims.contains ⟨k.ns, name⟩ = true := by
  obtain ⟨howners, hnames⟩ := h.pods k q hq
  refine ⟨howners, fun name hname => ?_⟩
  obtain ⟨hpart, hstored⟩ := hnames name hname
  exact ⟨hpart, Engine.contains_claims_deployed hstored e i⟩

theorem deployed (h : Attributed owner m) (hi : m.intents.find? i.metadata.key = some i) :
    Attributed owner (e.deployed i m) := by
  have howner := h.intents _ i hi
  refine ⟨h.intents_of_core fun _ _ hj => Engine.core_deployed hj, fun c claim hc => ?_,
    fun k q hq => ?_⟩
  · rcases Engine.claim_of_deployed hc with hold | ⟨p, hp, hmem, hfound⟩
    · exact h.claims c claim hold
    · obtain ⟨v, o, hkey, ho, howners⟩ := Engine.claim_of_plan hp hmem
      exact ⟨i.metadata.key, v, o, hfound.symm.trans hkey, howner.symm.trans ho, howners⟩
  · -- A pod that was there keeps its claims, and one that is made has those of the plan.
    rcases Engine.pod_of_deployed hq with hold | ⟨p, hp, rfl, rfl⟩
    · exact h.pod_kept hold e i
    · obtain ⟨o, ho, howners⟩ := Engine.owners_of_plan hp
      refine ⟨⟨o, howner.symm.trans ho, howners⟩, fun name hname => ?_⟩
      obtain ⟨hpart, claim, hclaim, hkey⟩ := Engine.claim_of_mounted hp hname
      exact ⟨hpart, hkey ▸ Engine.contains_claims_of_plan hp hclaim⟩

theorem removeFinalizer (h : Attributed owner m) (i : NodeIntent) :
    Attributed owner (m.removeFinalizer i intentFinalizer).2 := by
  have hintents := h.intents_of_core fun _ _ hj =>
    Memory.core_removeFinalizer (i := i) (f := intentFinalizer) hj
  rw [Memory.removeFinalizer_eq] at hintents ⊢
  exact ⟨hintents, h.claims, h.pods⟩

theorem recorded (h : Attributed owner m) (i : NodeIntent) (condition : Condition) :
    Attributed owner (m.recorded i condition) := by
  have hintents := h.intents_of_core fun _ _ hj =>
    Memory.core_recorded (i := i) (c := condition) hj
  rw [Memory.recorded_eq] at hintents ⊢
  exact ⟨hintents, h.claims, h.pods⟩

/-- **A pass leaves everything attributed.** -/
theorem pass {δ : Type} {w : World δ} (h : Attributed owner w.memory) (hw : w.memory.Filed)
    (e : Engine) (c : Connector δ) (key : ObjectKey) (now : Instant) :
    Attributed owner (e.pass World.store (World.link c) key now w).2.memory := by
  refine Engine.pass_preserves h (fun i hi _ => ?_) (fun i _ _ => ?_)
    (fun i condition m _ hm => ?_) c now
  · obtain rfl := hw.intents key i hi
    exact h.deployed hi
  · exact h.removeFinalizer i
  · exact hm.recorded i condition

/-- **A change leaves everything attributed**, if an intent that it adds is the one that is named
for its key. -/
theorem change (h : Attributed owner m) {c : Change}
    (hadd : ∀ i, c = .addIntent i → i.ownerReference? = owner i.metadata.key) :
    Attributed owner (c.apply m) := by
  cases c with
  | addIntent i =>
    refine ⟨fun k j hj => ?_, h.claims, h.pods⟩
    rw [Change.apply, Memory.addIntent, Dict.find?_insert] at hj
    split at hj
    · next hk =>
      obtain rfl := Option.some.inj hj
      rw [hadd i rfl, hk]
    · exact h.intents k j hj
  | addConfig c => exact ⟨h.intents, h.claims, h.pods⟩
  | addSecret s => exact ⟨h.intents, h.claims, h.pods⟩
  | setPodStatus k s =>
    refine ⟨h.intents, h.claims, fun j q hq => ?_⟩
    obtain ⟨x, hx, hsame⟩ := Memory.exists_of_find?_modify
      (g := fun p : Pod => (p.metadata.owners, p.claimNames)) hq fun _ => rfl
    obtain ⟨howners, hnames⟩ := Prod.mk.inj hsame
    rw [howners, hnames]
    exact h.pods j x hx
  | markDeleted k since =>
    refine ⟨fun j i hi => ?_, h.claims, h.pods⟩
    obtain ⟨x, hx, hsame⟩ := Memory.exists_of_find?_modify
      (g := NodeIntent.ownerReference?) hi fun _ => rfl
    exact hsame.trans (h.intents j x hx)
  | refusePods message => exact ⟨h.intents, h.claims, h.pods⟩

end Attributed

/-- **In every run everything stays attributed**, if the identity of the intent under a key does not
change. -/
theorem attributed_after {owner : ObjectKey → Option OwnerReference} {w : World Bench}
    {l : List Event} (h : Attributed owner w.memory) (hw : w.memory.Filed)
    (hadd : ∀ i, .change (.addIntent i) ∈ l → i.ownerReference? = owner i.metadata.key) :
    Attributed owner (w.after l).memory := by
  have hafter : (w.after l).memory.Filed ∧ Attributed owner (w.after l).memory := by
    refine World.after_preserves (P := fun w => w.memory.Filed ∧ Attributed owner w.memory)
      (fun v hv u hu => ⟨v.filed_run hu.1, ?_⟩) ⟨hw, h⟩
    cases v with
    | pass e key now => exact hu.2.pass hu.1 e Bench.connector key now
    | change c => exact hu.2.change fun i hi => hadd i (hi ▸ hv)
  exact hafter.2

/-- **Whose storage a node gets.** The claims of two intents of a namespace have the same key
exactly if the names of the nodes and of their volumes overlap. And in every run that begins without
pods and claims, in which the identity of the intent under a key does not change, a stored pod
mounts stored claims, each of which has the owner of the pod, or else that of another intent of the
namespace, the name of one of the two being that of the other with a dash and more after it. -/
theorem storage_of_nodes (owner : ObjectKey → Option OwnerReference) (w : World Bench)
    (l : List Event) (hw : w.memory.Filed) (hpods : ∀ k, w.memory.pods.find? k = none)
    (hclaims : ∀ k, w.memory.claims.find? k = none)
    (howner : ∀ k i, w.memory.intents.find? k = some i → i.ownerReference? = owner k)
    (hadd : ∀ i, .change (.addIntent i) ∈ l → i.ownerReference? = owner i.metadata.key) :
    (∀ (i j : NodeIntent) (s t : NodeConfigSpec) (cs ds : List VolumeClaim),
      i.metadata.key.ns = j.metadata.key.ns → i.volumeClaims s = .ok cs →
      j.volumeClaims t = .ok ds →
      ((∃ c ∈ cs, ∃ d ∈ ds, c.metadata.key = d.metadata.key) ↔
        ∃ v ∈ s.persistentVolumes, ∃ u ∈ t.persistentVolumes,
          Overlap i.metadata.displayName v.name j.metadata.displayName u.name)) ∧
    ∀ k p, (w.after l).memory.pods.find? k = some p → ∀ name ∈ p.claimNames,
      ∃ claim, (w.after l).memory.claims.find? ⟨k.ns, name⟩ = some claim ∧
        (claim.metadata.owners = p.metadata.owners ∨
          ∃ j o s, j.ns = k.ns ∧ (j.name = partName k.name s ∨ k.name = partName j.name s) ∧
            owner j = some o ∧ claim.metadata.owners = [o]) := by
  refine ⟨fun i j s t cs ds hns hcs hds => claims_meet_iff hns hcs hds, ?_⟩
  intro k p hp name hname
  have hbegin : Attributed owner w.memory :=
    ⟨howner, fun c claim hc => absurd ((hclaims c).symm.trans hc) (by simp),
      fun k p hp => absurd ((hpods k).symm.trans hp) (by simp)⟩
  have hend := attributed_after hbegin hw hadd
  obtain ⟨⟨o, ho, howners⟩, hnames⟩ := hend.pods k p hp
  obtain ⟨⟨v, hv⟩, hstored⟩ := hnames name hname
  obtain ⟨claim, hclaim⟩ := Option.isSome_iff_exists.1 hstored
  refine ⟨claim, hclaim, ?_⟩
  obtain ⟨j, u, o', hkey, ho', howners'⟩ := hend.claims _ claim hclaim
  obtain ⟨hns, hu⟩ := ObjectKey.mk.inj hkey
  -- The claim is named after the node of the pod and after that of its owner.
  rcases partName_eq_iff.1 (hv.symm.trans hu) with ⟨hnode, -⟩ | ⟨s, h⟩
  · obtain rfl : k = j := congrArg₂ ObjectKey.mk hns hnode
    rw [howners, howners', Option.some.inj (ho.symm.trans ho')]
    exact .inl rfl
  · refine .inr ⟨j, o', s, hns.symm, ?_, ho', howners'⟩
    rcases h with ⟨h, -⟩ | ⟨h, -⟩
    · exact .inl h
    · exact .inr h

/-- **A node gets the storage of another that was first.** After a pass over one intent and then one
over another, the claim of a volume of the first belongs to the first, and the pod of the second is
there, whether it mounts that claim or not. -/
theorem first_claim_stays {e : Engine} {w : World Bench} {i j : NodeIntent} {p q : Plan}
    (hw : w.memory.Filed) (hb : e.registry = .builtin)
    (hi : w.memory.intents.find? i.metadata.key = some i) (hli : i.metadata.isDeleted = false)
    (hj : w.memory.intents.find? j.metadata.key = some j) (hlj : j.metadata.isDeleted = false)
    (hne : j.metadata.key ≠ i.metadata.key) (hp : e.plan w.memory i = .ok p)
    (hq : e.plan w.memory j = .ok q) (hr : w.memory.refusingPods = none)
    (hpods : w.memory.pods.find? j.metadata.key = none) {v : PersistentVolume}
    (hv : v ∈ p.config.spec.persistentVolumes)
    (hfree : w.memory.claims.find? ⟨i.metadata.key.ns, partName i.metadata.key.name v.name⟩ = none)
    (now later : Instant) :
    (w.after [.pass e i.metadata.key now, .pass e j.metadata.key later]).memory.pods.find?
        j.metadata.key = some { q.pod with status := w.memory.initialStatus } ∧
      ∃ claim o, (w.after [.pass e i.metadata.key now,
          .pass e j.metadata.key later]).memory.claims.find?
            ⟨i.metadata.key.ns, partName i.metadata.key.name v.name⟩ = some claim ∧
        i.ownerReference? = some o ∧ claim.metadata.owners = [o] := by
  have hagree : (Event.run w (.pass e i.metadata.key now)).memory.AgreeFor j.metadata.key
      (· ∉ e.claimKeys i.metadata.key w.memory) w.memory :=
    Engine.agree_pass_of_ne hb hne hw now
  have hclaims := Engine.claims_of_pass (e := e) hi hli Bench.connector now w.device
  rw [World.after_cons, World.after_cons]
  generalize hfirst : Event.run w (.pass e i.metadata.key now) = first at hagree ⊢
  constructor
  · -- To the second intent the first pass has changed nothing.
    have hq' := (Engine.plan_congr hagree.configs j).trans hq
    obtain ⟨stored, hstored, -, -, hnew⟩ :=
      Engine.stored_of_plan hq' (Engine.converged_of_granted (hagree.refusingPods.trans hr) q j)
    have hnone := hagree.pod.trans hpods
    rw [hnew fun r hr => absurd (hnone.symm.trans hr) (by simp), hagree.initialStatus] at hstored
    have hafter := Engine.pods_of_pass (e := e) (hagree.intent.trans hj) hlj Bench.connector later
      first.device
    exact (congrArg (fun pods => pods.find? j.metadata.key) hafter).trans hstored
  · obtain ⟨x, hx, hkey⟩ := Engine.claim_of_volume hp hv
    obtain ⟨claim, hclaim⟩ := Option.isSome_iff_exists.1 (Engine.contains_claims_of_plan hp hx)
    rw [hkey] at hclaim
    have hmade := hclaim
    rw [Engine.find?_claims_of_plan hp, hfree, Option.none_or] at hmade
    obtain ⟨-, o, -, ho, howners⟩ := Engine.claim_of_plan hp (List.mem_of_find?_eq_some hmade)
    have hstored : first.memory.claims.find?
        ⟨i.metadata.key.ns, partName i.metadata.key.name v.name⟩ = some claim := by
      rw [← hfirst]
      exact (congrArg (fun claims => claims.find?
        ⟨i.metadata.key.ns, partName i.metadata.key.name v.name⟩) hclaims).trans hclaim
    exact ⟨claim, o, Engine.find?_claims_pass hstored e Bench.connector _ later, ho, howners⟩

namespace Sample

def node (name uid : String) : NodeIntent where
  metadata := { name := some name, ns := some "fabric", uid := some uid }
  spec := ⟨"srlinux.nokia.com", none⟩
  status := none

def nodeConfig (name volume : String) : NodeConfig where
  metadata := { name := some name, ns := some "fabric" }
  spec := { provider := "srlinux.nokia.com", persistentVolumes := [⟨volume, "/data", {}⟩] }

/-- Two nodes whose names and volumes overlap. -/
def shelf : World Bench :=
  ⟨(((({} : Memory).addIntent (node "a" "1")).addIntent (node "a-b" "2")).addConfig
    (nodeConfig "a" "b-c")).addConfig (nodeConfig "a-b" "c"), {}⟩

def rounds : List Event := [.pass {} ⟨"fabric", "a"⟩ default, .pass {} ⟨"fabric", "a-b"⟩ default]

theorem filed_shelf : shelf.memory.Filed :=
  (((Memory.filed_empty.addIntent _).addIntent _).addConfig _).addConfig _

theorem resolved_a : ({} : Engine).resolved shelf.memory (node "a" "1") =
    .ok (.srLinux, nodeConfig "a" "b-c") :=
  Engine.resolved_eq_ok_iff.2 ⟨rfl, rfl, rfl⟩

theorem resolved_ab : ({} : Engine).resolved shelf.memory (node "a-b" "2") =
    .ok (.srLinux, nodeConfig "a-b" "c") :=
  Engine.resolved_eq_ok_iff.2 ⟨rfl, rfl, rfl⟩

end Sample

theorem storage_of_nodes_sample :
    (∃ cs ds, (Sample.node "a" "1").volumeClaims (Sample.nodeConfig "a" "b-c").spec = .ok cs ∧
      (Sample.node "a-b" "2").volumeClaims (Sample.nodeConfig "a-b" "c").spec = .ok ds ∧
      ∃ c ∈ cs, ∃ d ∈ ds, c.metadata.key = d.metadata.key) ∧
    ∀ k p, (Sample.shelf.after Sample.rounds).memory.pods.find? k = some p →
      ∀ name ∈ p.claimNames, ∃ claim,
        (Sample.shelf.after Sample.rounds).memory.claims.find? ⟨k.ns, name⟩ = some claim ∧
          (claim.metadata.owners = p.metadata.owners ∨
            ∃ j o s, j.ns = k.ns ∧ (j.name = partName k.name s ∨ k.name = partName j.name s) ∧
              (Sample.shelf.memory.intents.find? j).bind NodeIntent.ownerReference? = some o ∧
              claim.metadata.owners = [o]) := by
  have howner : ∀ k i, Sample.shelf.memory.intents.find? k = some i → i.ownerReference? =
      (Sample.shelf.memory.intents.find? k).bind NodeIntent.ownerReference? := by
    intro k i hi
    rw [hi, Option.bind_some]
  have hadd : ∀ i, .change (.addIntent i) ∈ Sample.rounds → i.ownerReference? =
      (Sample.shelf.memory.intents.find? i.metadata.key).bind NodeIntent.ownerReference? := by
    intro i hi
    simp [Sample.rounds] at hi
  obtain ⟨hmeet, hmounts⟩ := storage_of_nodes _ Sample.shelf Sample.rounds Sample.filed_shelf
    (fun _ => rfl) (fun _ => rfl) howner hadd
  have hoverlap : Overlap "a" "b-c" "a-b" "c" := .inr ⟨"b", .inl ⟨rfl, rfl⟩⟩
  have hclaims := (hmeet (Sample.node "a" "1") (Sample.node "a-b" "2")
    (Sample.nodeConfig "a" "b-c").spec (Sample.nodeConfig "a-b" "c").spec _ _ rfl rfl rfl).2
      ⟨_, List.mem_cons_self, _, List.mem_cons_self, hoverlap⟩
  exact ⟨⟨_, _, rfl, rfl, hclaims⟩, hmounts⟩

/-- **Two nodes do share their storage.** The claims of `a` for its volume `b-c` and of `a-b` for
its volume `c` have the same key, and after a pass over each, the pod of `a-b` mounts the claim of
`a`. -/
theorem storage_shared :
    (∃ cs ds, (Sample.node "a" "1").volumeClaims (Sample.nodeConfig "a" "b-c").spec = .ok cs ∧
      (Sample.node "a-b" "2").volumeClaims (Sample.nodeConfig "a-b" "c").spec = .ok ds ∧
      ∃ c ∈ cs, ∃ d ∈ ds, c.metadata.key = d.metadata.key) ∧
    ∃ p claim, (Sample.shelf.after Sample.rounds).memory.pods.find? ⟨"fabric", "a-b"⟩ = some p ∧
      p.metadata.owners.map OwnerReference.uid = ["2"] ∧ "a-b-c" ∈ p.claimNames ∧
      (Sample.shelf.after Sample.rounds).memory.claims.find? ⟨"fabric", "a-b-c"⟩ = some claim ∧
      claim.metadata.owners.map OwnerReference.uid = ["1"] := by
  have ha : Sample.shelf.memory.intents.find? ⟨"fabric", "a"⟩ = some (Sample.node "a" "1") := rfl
  have hb : Sample.shelf.memory.intents.find? ⟨"fabric", "a-b"⟩ =
      some (Sample.node "a-b" "2") := rfl
  obtain ⟨p, hp, hpd, hpc⟩ := Engine.exists_plan_iff.2
    ⟨Sample.resolved_a, (by decide : (Sample.node "a" "1").Identified)⟩
  obtain ⟨q, hq, hqd, hqc⟩ := Engine.exists_plan_iff.2
    ⟨Sample.resolved_ab, (by decide : (Sample.node "a-b" "2").Identified)⟩
  refine ⟨⟨_, _, rfl, rfl, _, List.mem_cons_self, _, List.mem_cons_self, rfl⟩, ?_⟩
  obtain ⟨hpod, claim, o, hclaim, ho, howners⟩ := first_claim_stays
    (i := Sample.node "a" "1") (j := Sample.node "a-b" "2") (v := ⟨"b-c", "/data", {}⟩)
    Sample.filed_shelf rfl ha rfl hb rfl (by decide) hp hq rfl rfl
    (by rw [hpc]; exact List.mem_cons_self) rfl default default
  obtain ⟨o', ho', howners'⟩ := Engine.owners_of_plan hq
  refine ⟨_, claim, hpod, ?_, ?_, hclaim, ?_⟩
  · show q.pod.metadata.owners.map OwnerReference.uid = ["2"]
    rw [howners', ← Option.some.inj ho']
    rfl
  · show "a-b-c" ∈ q.pod.claimNames
    rw [Engine.claimNames_of_plan hq hqd, hqc]
    exact List.mem_cons_self
  · rw [howners, ← Option.some.inj ho]
    rfl

end NodeDeploy
