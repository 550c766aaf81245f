import NodeDeploy.Proofs.Drift
import NodeDeploy.Proofs.JsonText
import NodeDeploy.Proofs.Storage

/-! # What a pod refers to

A pod selects its attachments in an annotation and mounts its claims in its volumes, both by name.
They are built together with the pod, but written before it, and the pod may stay for long after.

* `Wiring.selections?` and `Wiring.plugins?` read the texts of the annotation and of a plugin chain;
  `selections?_text` and `wiresOnly_chainText` say that the texts that are written mean what they
  should.
* `Pod.Resolved`: everything that a pod refers to is stored.
* `Memory.Linked` is the invariant. `Linked.pass` and `Linked.change` are the steps, and
  `linked_after` the run.
* `references_resolve`: in every run that begins without pods, every pod is resolved.

An attachment may be written again, by a pass over the same intent or over another of that name, but
only so that it wires the same interface: under the name of a node followed by that of an interface
there are only attachments for this interface, since the names of the interfaces are equally long.
-/

namespace NodeDeploy

/-! ## Reading the texts -/

namespace Wiring

/-- An entry of the annotation that selects attachments. -/
structure Selection where
  name : String
  interface : Option String
  deriving DecidableEq, Repr

def Selection.ofJson? (j : Json) : Option Selection := do
  let m ← j.readObject
  some {
    name := ← Json.required m "name" Json.readString
    interface := ← Json.optional m "interface" Json.readString }

def selections? (text : String) : Option (List Selection) := do
  Json.readList Selection.ofJson? (← Json.parse? text)

/-- What a plugin of a chain says of itself and of an interface. -/
structure Plugin where
  type : String
  interfaceName : Option String
  deriving DecidableEq, Repr

def Plugin.ofJson? (j : Json) : Option Plugin := do
  let m ← j.readObject
  some {
    type := ← Json.required m "type" Json.readString
    interfaceName := ← Json.optional m "interfaceName" Json.readString }

def plugins? (text : String) : Option (List Plugin) := do
  let m ← (← Json.parse? text).readObject
  Json.required m "plugins" (Json.readList Plugin.ofJson?)

/-- The text of a chain wires an interface and no other. -/
def WiresOnly (text interface : String) : Prop :=
  ∃ plugins, plugins? text = some plugins ∧
    (plugins.filter (·.type = "wire")).map Plugin.interfaceName = [some interface]

def selection (a : NetworkAttachment) : Selection :=
  ⟨a.metadata.name.getD "", a.metadata.label? interfaceLabel⟩

theorem plain_selectionEntry (a : NetworkAttachment) : (selectionEntry a).Plain := by
  rw [selectionEntry]
  rcases a.metadata.label? interfaceLabel with _ | interface <;>
    simp [Json.record, Json.Plain, Json.MembersPlain]

theorem ofJson?_selectionEntry (a : NetworkAttachment) :
    Selection.ofJson? (selectionEntry a) = some (selection a) := by
  rw [selectionEntry, selection]
  rcases a.metadata.label? interfaceLabel with _ | interface <;> rfl

theorem plain_selectionEntries (l : List NetworkAttachment) :
    (Json.arr (l.map selectionEntry)).Plain :=
  Json.itemsPlain_map fun a _ => plain_selectionEntry a

/-- **The annotation is read as the attachments that it selects**, in their order. -/
theorem selections?_text (l : List NetworkAttachment) :
    selections? (Json.arr (l.map selectionEntry)).text = some (l.map selection) := by
  have hread : (l.map selectionEntry).mapM Selection.ofJson? = some (l.map selection) := by
    induction l with
    | nil => rfl
    | cons a l ih =>
      rw [List.map_cons, List.mapM_cons, ofJson?_selectionEntry, ih]
      rfl
  rw [selections?, Json.parse?_text (plain_selectionEntries l)]
  exact hread

theorem plain_chain (interface : String) (tuning : Option Capabilities) :
    (chain interface tuning).Plain := by
  rcases tuning with _ | ⟨_ | _, _ | _⟩ <;>
    simp [chain, wirePlugin, tuningPlugin, Capabilities.toJson, Json.record, Json.Plain,
      Json.ItemsPlain, Json.MembersPlain]

/-- **The chain of an interface wires this interface and no other**, whatever its name. -/
theorem wiresOnly_chainText (interface : String) (tuning : Option Capabilities) :
    WiresOnly (chainText interface tuning) interface := by
  have hread : plugins? (chainText interface tuning) = some
      (⟨"wire", some interface⟩ :: (tuning.map fun _ => ⟨"tuning", none⟩).toList) := by
    rw [plugins?, chainText, Json.parse?_text (plain_chain interface tuning)]
    rcases tuning with _ | capabilities <;> rfl
  refine ⟨_, hread, ?_⟩
  rcases tuning with _ | capabilities <;> rfl

end Wiring

/-! ## What refers to what -/

/-- The attachment of an interface is named and labelled after it, and wires it. -/
theorem NodeIntent.networkAttachment_wires {i : NodeIntent} {interface : String}
    {a : NetworkAttachment} (h : i.networkAttachment interface = .ok a) :
    a.metadata.name = some (partName i.metadata.displayName interface) ∧
      a.metadata.label? Wiring.interfaceLabel = some interface ∧
      a.config = Wiring.chainText interface (some { mac := true }) := by
  obtain ⟨d, hd, ha⟩ := bind_eq_ok_iff.1 h
  obtain rfl := Except.ok.inj ha
  obtain ⟨-, o, -, rfl⟩ := NodeIntent.ownedMetadata_eq hd
  have hlabel : (Dict.ofList [(Wiring.interfaceLabel, interface)]).find? Wiring.interfaceLabel =
      some interface := Dict.find?_insert_self _ _ _
  exact ⟨rfl, hlabel, rfl⟩

/-- Everything that a pod refers to is stored in the namespace `ns`: each entry of its annotation
names an attachment that wires the interface of the entry and no other, and each claim that it
mounts is there. -/
structure Pod.Resolved (p : Pod) (ns : String) (m : Memory) : Prop where
  networks : ∀ text, p.metadata.annotation? networksAnnotation = some text →
    ∃ selections, Wiring.selections? text = some selections ∧
      ∀ s ∈ selections, ∃ interface a, s.interface = some interface ∧
        m.attachments.find? ⟨ns, s.name⟩ = some a ∧ Wiring.WiresOnly a.config interface
  claims : ∀ name ∈ p.claimNames, ∃ claim, m.claims.find? ⟨ns, name⟩ = some claim

namespace Memory

/-- The attachment under a key wires an interface as the attachments of nodes do. -/
def WiredAt (m : Memory) (k : ObjectKey) (interface : String) : Prop :=
  ∃ a, m.attachments.find? k = some a ∧
    a.config = Wiring.chainText interface (some { mac := true })

/-- Under the name that an attachment was selected by there is one that wires the interface that it
was selected for. -/
def Provides (m : Memory) (ns : String) (a : NetworkAttachment) : Prop :=
  ∃ node interface, a.metadata.name = some (partName node interface) ∧
    a.metadata.label? Wiring.interfaceLabel = some interface ∧ Registry.builtin.Wires interface ∧
    m.WiredAt ⟨ns, partName node interface⟩ interface

/-- What a pod refers to is stored: the annotation was written for attachments that the memory
provides, and the claims that are mounted are there. -/
structure Supports (m : Memory) (ns : String) (p : Pod) : Prop where
  networks : ∀ text, p.metadata.annotation? networksAnnotation = some text →
    ∃ l : List NetworkAttachment, text = (Json.arr (l.map Wiring.selectionEntry)).text ∧
      ∀ a ∈ l, m.Provides ns a
  claims : ∀ name ∈ p.claimNames, m.claims.contains ⟨ns, name⟩ = true

/-- Every pod lies under its own key, and what it refers to is stored. -/
def Linked (m : Memory) : Prop :=
  ∀ k p, m.pods.find? k = some p → p.metadata.key = k ∧ m.Supports k.ns p

theorem Supports.resolved {m : Memory} {ns : String} {p : Pod} (h : m.Supports ns p) :
    p.Resolved ns m := by
  constructor
  · intro text htext
    obtain ⟨l, rfl, hl⟩ := h.networks text htext
    refine ⟨_, Wiring.selections?_text l, ?_⟩
    intro s hs
    obtain ⟨a, ha, rfl⟩ := List.mem_map.1 hs
    obtain ⟨node, interface, hname, hlabel, -, b, hb, hconfig⟩ := hl a ha
    have hselected : (Wiring.selection a).name = partName node interface := by
      rw [Wiring.selection, hname]
      rfl
    refine ⟨interface, b, hlabel, ?_, ?_⟩
    · rw [hselected]
      exact hb
    · rw [hconfig]
      exact Wiring.wiresOnly_chainText interface _
  · intro name hname
    exact Option.isSome_iff_exists.1 (h.claims name hname)

/-- What supports a pod still does if it keeps the wiring of all names and all claims. -/
theorem Supports.mono {m n : Memory} {ns : String} {p : Pod} (h : m.Supports ns p)
    (hwired : ∀ node interface, Registry.builtin.Wires interface →
      m.WiredAt ⟨ns, partName node interface⟩ interface →
        n.WiredAt ⟨ns, partName node interface⟩ interface)
    (hclaims : ∀ k, m.claims.contains k = true → n.claims.contains k = true) :
    n.Supports ns p := by
  constructor
  · intro text htext
    obtain ⟨l, hl, hall⟩ := h.networks text htext
    refine ⟨l, hl, ?_⟩
    intro a ha
    obtain ⟨node, interface, hname, hlabel, hwires, hat⟩ := hall a ha
    exact ⟨node, interface, hname, hlabel, hwires, hwired node interface hwires hat⟩
  · intro name hname
    exact hclaims _ (h.claims name hname)

end Memory

/-! ## The way to a ready node -/

namespace Engine

variable {e : Engine} {m : Memory} {i : NodeIntent} {p : Plan}

theorem attachment_of_plan (hb : e.registry = .builtin) (hp : e.plan m i = .ok p)
    {a : NetworkAttachment} (ha : a ∈ p.attachments) :
    ∃ interface, Registry.builtin.Wires interface ∧ i.networkAttachment interface = .ok a := by
  obtain ⟨interface, hmem, hi⟩ := exists_of_mem_selected (plan_eq_ok_iff.1 hp).2.2.1 ha
  exact ⟨interface, ⟨_, p.driver, hb ▸ driver_of_plan hp, hmem⟩, hi⟩

/-- Every attachment of a plan is there afterwards, in its own words. -/
theorem wiredAt_of_plan (hp : e.plan m i = .ok p) {interface : String} {a : NetworkAttachment}
    (ha : a ∈ p.attachments) (hi : i.networkAttachment interface = .ok a) :
    (e.deployed i m).WiredAt a.metadata.key interface := by
  have hselected := (plan_eq_ok_iff.1 hp).2.2.1
  have hattached : (p.prepared i m).attaches a = true :=
    Memory.attachments_applied (.inr ha) fun b hb h => selected_injective hselected hb ha h
  obtain ⟨b, hb, hagrees⟩ := (Option.any_eq_true _ _).1 hattached
  have hsame : b.config = a.config := by
    have hboth : (b.config == a.config && b.metadata.owners == a.metadata.owners) = true := hagrees
    rw [Bool.and_eq_true, beq_iff_eq] at hboth
    exact hboth.1
  refine ⟨b, ?_, ?_⟩
  · rw [attachments_of_plan hp]
    exact hb
  · rw [hsame, (NodeIntent.networkAttachment_wires hi).2.2]

/-- **No pass changes what is wired under the name of a node and an interface.** -/
theorem wiredAt_deployed (hb : e.registry = .builtin) {ns node interface : String}
    (hwires : Registry.builtin.Wires interface)
    (h : m.WiredAt ⟨ns, partName node interface⟩ interface) (i : NodeIntent) :
    (e.deployed i m).WiredAt ⟨ns, partName node interface⟩ interface := by
  rcases hp : e.plan m i with stop | p
  · rw [deployed, hp]
    exact h
  by_cases hown : ∃ a ∈ p.attachments,
      (⟨ns, partName node interface⟩ : ObjectKey) = a.metadata.key
  · -- It is written by this pass, for an interface whose name is equally long.
    obtain ⟨a, ha, hkey⟩ := hown
    obtain ⟨other, hother, hi⟩ := attachment_of_plan hb hp ha
    have hname := (ObjectKey.mk.inj (hkey.trans (NodeIntent.networkAttachment_spec hi).2)).2
    have hlength := (Registry.length_of_wires hwires).trans (Registry.length_of_wires hother).symm
    obtain ⟨-, rfl⟩ := partName_inj_of_length hlength hname
    rw [hkey]
    exact wiredAt_of_plan hp ha hi
  · have hkept : (p.prepared i m).attachments.find? ⟨ns, partName node interface⟩ =
        m.attachments.find? ⟨ns, partName node interface⟩ :=
      Plan.find?_attachments_prepared_ne fun a ha hkey => hown ⟨a, ha, hkey⟩
    obtain ⟨a, ha, hconfig⟩ := h
    refine ⟨a, ?_, hconfig⟩
    rw [attachments_of_plan hp, hkept]
    exact ha

theorem supports_deployed (hb : e.registry = .builtin) {ns : String} {q : Pod}
    (h : m.Supports ns q) (i : NodeIntent) : (e.deployed i m).Supports ns q :=
  h.mono (fun _ _ hwires hat => wiredAt_deployed hb hwires hat i)
    fun _ hk => contains_claims_deployed hk e i

/-- The annotation of a wanted pod was written for the attachments of its plan. -/
theorem networks_of_plan (hp : e.plan m i = .ok p) {text : String}
    (h : p.pod.metadata.annotation? networksAnnotation = some text) :
    text = (Json.arr (p.attachments.map Wiring.selectionEntry)).text := by
  obtain ⟨-, -, -, hw⟩ := plan_eq_ok_iff.1 hp
  have hnetworks := (NodeIntent.networks_pod (Driver.pod_of_workload hw)).symm.trans h
  rcases hd : p.driver with ⟨layout, family⟩ | provider
  · rw [hd] at hnetworks
    simp only [Wiring.selection?] at hnetworks
    split at hnetworks
    · cases hnetworks
    · exact (Option.some.inj hnetworks).symm
  · rw [hd] at hnetworks
    cases hnetworks

/-- **The wanted pod is supported**, since what it refers to is written before it. -/
theorem supports_of_plan (hb : e.registry = .builtin) (hp : e.plan m i = .ok p)
    (status : Option PodStatus) :
    (e.deployed i m).Supports i.metadata.key.ns { p.pod with status } := by
  constructor
  · intro text htext
    refine ⟨p.attachments, networks_of_plan hp htext, ?_⟩
    intro a ha
    obtain ⟨interface, hwires, hi⟩ := attachment_of_plan hb hp ha
    obtain ⟨hname, hlabel, -⟩ := NodeIntent.networkAttachment_wires hi
    refine ⟨_, interface, hname, hlabel, hwires, ?_⟩
    rw [← (NodeIntent.networkAttachment_spec hi).2]
    exact wiredAt_of_plan hp ha hi
  · intro name hname
    obtain ⟨-, claim, hclaim, hkey⟩ := claim_of_mounted hp hname
    rw [← hkey]
    exact contains_claims_of_plan hp hclaim

end Engine

/-! ## Runs -/

namespace Memory.Linked

variable {m n : Memory}

/-- Only the parts of nodes count. -/
theorem congr (h : m.Linked) (hsame : n.SameParts m) : n.Linked := by
  intro k p hp
  rw [hsame.pods] at hp
  obtain ⟨hkey, hsupports⟩ := h k p hp
  refine ⟨hkey, hsupports.mono (fun node interface _ hat => ?_) fun c hc => ?_⟩
  · rw [Memory.WiredAt, hsame.attachments]
    exact hat
  · rw [hsame.claims]
    exact hc

theorem deployed {e : Engine} (h : m.Linked) (hb : e.registry = .builtin) (i : NodeIntent) :
    (e.deployed i m).Linked := by
  intro k q hq
  rcases Engine.pod_of_deployed hq with hold | ⟨p, hp, rfl, rfl⟩
  · obtain ⟨hkey, hsupports⟩ := h k q hold
    exact ⟨hkey, Engine.supports_deployed hb hsupports i⟩
  · exact ⟨Engine.key_of_plan hp, Engine.supports_of_plan hb hp _⟩

/-- **A pass leaves everything linked.** -/
theorem pass {δ : Type} {w : World δ} (h : w.memory.Linked) {e : Engine}
    (hb : e.registry = .builtin) (c : Connector δ) (key : ObjectKey) (now : Instant) :
    (e.pass World.store (World.link c) key now w).2.memory.Linked := by
  rcases Engine.parts_of_pass e c key now w with hsame | ⟨i, -, -, hsame⟩
  · exact h.congr hsame
  · exact (h.deployed hb i).congr hsame

/-- **A change leaves everything linked**, whatever it adds. -/
theorem change (h : m.Linked) (c : Change) : (c.apply m).Linked := by
  cases c with
  | addIntent i => exact h.congr ⟨rfl, rfl, rfl⟩
  | addConfig c => exact h.congr ⟨rfl, rfl, rfl⟩
  | addSecret s => exact h.congr ⟨rfl, rfl, rfl⟩
  | setPodStatus k s =>
    intro j q hq
    obtain ⟨x, hx, hsame⟩ := Memory.exists_of_find?_modify
      (g := fun p : Pod => (p.metadata, p.claimNames)) hq fun _ => rfl
    obtain ⟨hmetadata, hnames⟩ := Prod.mk.inj hsame
    obtain ⟨hkey, hnetworks, hclaims⟩ := h j x hx
    rw [← hmetadata] at hkey hnetworks
    rw [← hnames] at hclaims
    exact ⟨hkey, hnetworks, hclaims⟩
  | markDeleted k since => exact h.congr ⟨rfl, rfl, rfl⟩
  | refusePods message => exact h.congr ⟨rfl, rfl, rfl⟩

end Memory.Linked

theorem linked_after {w : World Bench} {l : List Event} (h : w.memory.Linked)
    (hb : ∀ e key now, .pass e key now ∈ l → e.registry = .builtin) :
    (w.after l).memory.Linked := by
  refine World.after_preserves (P := fun w => w.memory.Linked) (fun v hv u hu => ?_) h
  cases v with
  | pass e key now => exact hu.pass (hb e key now hv) Bench.connector key now
  | change c => exact hu.change c

/-- **Everything that a pod refers to is stored, in every run that begins without pods.** Each entry
of the annotation that selects attachments names one that is stored in the namespace of the pod and
wires the interface of the entry and no other, and each claim that the pod mounts is stored in its
namespace. -/
theorem references_resolve (w : World Bench) (l : List Event)
    (hpods : ∀ k, w.memory.pods.find? k = none)
    (hb : ∀ e key now, .pass e key now ∈ l → e.registry = .builtin) :
    ∀ k p, (w.after l).memory.pods.find? k = some p →
      p.metadata.key = k ∧ p.Resolved k.ns (w.after l).memory := by
  have hbegin : w.memory.Linked := by
    intro k p hp
    rw [hpods k] at hp
    cases hp
  intro k p hp
  obtain ⟨hkey, hsupports⟩ := linked_after hbegin hb k p hp
  exact ⟨hkey, hsupports.resolved⟩

/-- So it is for two nodes whose names overlap: the pod of the second selects attachments and mounts
a claim, and they are there. -/
theorem references_resolve_sample :
    (∀ k, Sample.shelf.memory.pods.find? k = none) ∧
    (∀ e key now, .pass e key now ∈ Sample.rounds → e.registry = .builtin) ∧
    ∃ p, (Sample.shelf.after Sample.rounds).memory.pods.find? ⟨"fabric", "a-b"⟩ = some p ∧
      (p.metadata.annotation? networksAnnotation).isSome ∧ "a-b-c" ∈ p.claimNames ∧
      p.metadata.key = ⟨"fabric", "a-b"⟩ ∧
      p.Resolved "fabric" (Sample.shelf.after Sample.rounds).memory := by
  have hbuiltin : ∀ e key now, .pass e key now ∈ Sample.rounds → e.registry = .builtin := by
    intro e key now h
    simp only [Sample.rounds, List.mem_cons, Event.pass.injEq, List.not_mem_nil, or_false] at h
    rcases h with ⟨rfl, -⟩ | ⟨rfl, -⟩ <;> rfl
  obtain ⟨p, hp, -, hpc⟩ := Engine.exists_plan_iff.2
    ⟨Sample.resolved_a, (by decide : (Sample.node "a" "1").Identified)⟩
  obtain ⟨q, hq, hqd, hqc⟩ := Engine.exists_plan_iff.2
    ⟨Sample.resolved_ab, (by decide : (Sample.node "a-b" "2").Identified)⟩
  obtain ⟨hpod, -⟩ := first_claim_stays
    (i := Sample.node "a" "1") (j := Sample.node "a-b" "2") (v := ⟨"b-c", "/data", {}⟩)
    Sample.filed_shelf rfl rfl rfl rfl rfl (by decide) hp hq rfl rfl
    (by rw [hpc]; exact List.mem_cons_self) rfl default default
  obtain ⟨-, -, hselected, hworkload⟩ := Engine.plan_eq_ok_iff.1 hq
  have hwired := (Engine.isSome_networks_iff hselected hworkload).2
    ⟨rfl, by rw [hqd]; exact List.cons_ne_nil _ _⟩
  have hmounted : "a-b-c" ∈ q.pod.claimNames := by
    rw [Engine.claimNames_of_plan hq hqd, hqc]
    exact List.mem_cons_self
  have hresolved := references_resolve Sample.shelf Sample.rounds (fun _ => rfl) hbuiltin _ _ hpod
  exact ⟨fun _ => rfl, hbuiltin, _, hpod, hwired, hmounted, hresolved⟩

end NodeDeploy
