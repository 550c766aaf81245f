import NodeDeploy.Proofs.Storage

/-! # Ownership

Everything that is deployed for an intent belongs to the intent, so that it goes away with it, and
the intent has a finalizer, so that it does not go away unseen. Both are due to passes, and between
passes much may happen: intents come and go, and a name may be used again by an intent with another
uid.

* `Part` tells the parts of a node from each other, and `Memory.ownership?` says whose a stored part
  is. `ownership_pass`: a pass leaves whose it was, or makes it that of the intent it passes over.
* `Memory.Fosters` is what the environment may do. `Change.fosters`: all that the changes of a run
  do, if intents are added with a fresh uid only.
* `Memory.Secured` is the invariant. `Secured.pass` is the step, and `secured_reached` the run.
* `made_reached`: whatever is stored was made for an intent, in a pass over it.
* `owned_and_guarded`: so everything is owned, and by an intent that has the finalizer.
-/

namespace NodeDeploy

/-! ## Whose a part is -/

inductive Part where
  | pod
  | attachment
  | claim
  deriving DecidableEq, Repr

/-- Whose a part is, and where it lives. -/
structure Ownership where
  ns : Option String
  owners : Option (List OwnerReference)
  deriving DecidableEq, Repr

def Metadata.ownership (d : Metadata) : Ownership := ⟨d.ns, d.ownerReferences⟩

/-- The part lives in the namespace of the intent and has one owner, the intent as its
controller. -/
def Ownership.BelongsTo (b : Ownership) (i : NodeIntent) : Prop :=
  ∃ ns name uid, i.metadata.ns = some ns ∧ i.metadata.name = some name ∧
    i.metadata.uid = some uid ∧ b = ⟨some ns, some [{
      apiVersion := ResourceKind.nodeIntent.apiVersion
      kind := ResourceKind.nodeIntent.kind
      name, uid
      controller := some true }]⟩

def Memory.ownership? (m : Memory) (part : Part) (k : ObjectKey) : Option Ownership :=
  match part with
  | .pod => (m.pods.find? k).map (·.metadata.ownership)
  | .attachment => (m.attachments.find? k).map (·.metadata.ownership)
  | .claim => (m.claims.find? k).map (·.metadata.ownership)

namespace NodeIntent

variable {i : NodeIntent}

theorem belongsTo_ownedMetadata {part : String} {d : Metadata} (h : i.ownedMetadata part = .ok d) :
    d.ownership.BelongsTo i := by
  obtain ⟨ns, name, uid, hns, hname, huid, hm⟩ :=
    ownedMetadata_of_identified (ownedMetadata_eq h).1
  obtain rfl := Except.ok.inj ((hm part).symm.trans h)
  exact ⟨ns, name, uid, hns, hname, huid, rfl⟩

theorem belongsTo_volumeClaim {v : PersistentVolume} {c : VolumeClaim}
    (h : i.volumeClaim v = .ok c) : c.metadata.ownership.BelongsTo i := by
  obtain ⟨d, hd, hc⟩ := bind_eq_ok_iff.1 h
  obtain rfl := Except.ok.inj hc
  have howned := belongsTo_ownedMetadata hd
  exact howned

theorem belongsTo_networkAttachment {interface : String} {a : NetworkAttachment}
    (h : i.networkAttachment interface = .ok a) : a.metadata.ownership.BelongsTo i := by
  obtain ⟨d, hd, ha⟩ := bind_eq_ok_iff.1 h
  obtain rfl := Except.ok.inj ha
  have howned := belongsTo_ownedMetadata hd
  exact howned

theorem belongsTo_pod {spec : PodSpec} {networks : Option String} {p : Pod}
    (h : i.pod spec networks = .ok p) : p.metadata.ownership.BelongsTo i := by
  obtain ⟨d, hd, rfl⟩ := exists_of_pod h
  have howned := belongsTo_ownedMetadata hd
  exact howned

end NodeIntent

/-! ## What a pass makes -/

namespace Engine

variable {δ : Type} {e : Engine} {m : Memory} {i : NodeIntent} {w : World δ} {c : Connector δ}
  {key k : ObjectKey} {now : Instant} {part : Part} {b : Ownership}

theorem belongsTo_pod_of_plan {p : Plan} (hp : e.plan m i = .ok p) :
    p.pod.metadata.ownership.BelongsTo i := by
  obtain ⟨-, -, -, hw⟩ := plan_eq_ok_iff.1 hp
  exact NodeIntent.belongsTo_pod (Driver.pod_of_workload hw)

/-- **The way to a ready node makes parts for its intent only**, and leaves others as they are. -/
theorem ownership_deployed (h : (e.deployed i m).ownership? part k = some b) :
    m.ownership? part k = some b ∨ b.BelongsTo i := by
  cases part with
  | pod =>
    obtain ⟨q, hq, rfl⟩ := Option.map_eq_some_iff.1 h
    rcases pod_of_deployed hq with hold | ⟨p, hp, -, rfl⟩
    · exact .inl (Option.map_eq_some_iff.2 ⟨q, hold, rfl⟩)
    · exact .inr (belongsTo_pod_of_plan hp)
  | attachment =>
    obtain ⟨a, ha, rfl⟩ := Option.map_eq_some_iff.1 h
    rcases attachment_of_deployed ha with hold | ⟨p, hp, hnew⟩
    · exact .inl (Option.map_eq_some_iff.2 ⟨a, hold, rfl⟩)
    · obtain ⟨interface, -, hbuilt⟩ := exists_of_mem_selected (plan_eq_ok_iff.1 hp).2.2.1 hnew
      exact .inr (NodeIntent.belongsTo_networkAttachment hbuilt)
  | claim =>
    obtain ⟨x, hx, rfl⟩ := Option.map_eq_some_iff.1 h
    rcases claim_of_deployed hx with hold | ⟨p, hp, hnew, -⟩
    · exact .inl (Option.map_eq_some_iff.2 ⟨x, hold, rfl⟩)
    · obtain ⟨v, -, hbuilt⟩ := exists_of_mem_mapM (plan_eq_ok_iff.1 hp).2.1 hnew
      exact .inr (NodeIntent.belongsTo_volumeClaim hbuilt)

theorem ownership_congr {n : Memory} (h : n.SameParts m) :
    n.ownership? part k = m.ownership? part k := by
  cases part with
  | pod => rw [Memory.ownership?, h.pods]; rfl
  | attachment => rw [Memory.ownership?, h.attachments]; rfl
  | claim => rw [Memory.ownership?, h.claims]; rfl

/-- **A pass makes parts for the intent that it passes over**, which is not being deleted, and
leaves others as they are. -/
theorem ownership_pass
    (h : (e.pass World.store (World.link c) key now w).2.memory.ownership? part k = some b) :
    w.memory.ownership? part k = some b ∨ ∃ i, w.memory.intents.find? key = some i ∧
      i.metadata.isDeleted = false ∧ b.BelongsTo i := by
  rcases parts_of_pass e c key now w with hsame | ⟨i, hi, hl, hsame⟩
  · rw [ownership_congr hsame] at h
    exact .inl h
  · rw [ownership_congr hsame] at h
    exact (ownership_deployed h).imp_right fun hbelongs => ⟨i, hi, hl, hbelongs⟩

/-- An intent that is not identified gets no part. -/
theorem sameParts_pass_of_not_identified (hi : w.memory.intents.find? key = some i)
    (hid : ¬i.Identified) (e : Engine) (c : Connector δ) (now : Instant) :
    (e.pass World.store (World.link c) key now w).2.memory.SameParts w.memory := by
  rcases parts_of_pass e c key now w with hsame | ⟨j, hj, -, hsame⟩
  · exact hsame
  obtain rfl : i = j := Option.some.inj (hi.symm.trans hj)
  rcases hp : e.plan w.memory i with stop | p
  · rw [deployed, hp] at hsame
    exact hsame.trans ⟨rfl, rfl, rfl⟩
  · exact absurd (exists_plan_iff.1 ⟨p, hp, rfl, rfl⟩).2 hid

/-! ## The finalizer -/

theorem finalizer_recorded {condition : Condition} {j : NodeIntent}
    (h : (m.recorded i condition).intents.find? k = some j) :
    ∃ x, m.intents.find? k = some x ∧ j.core = x.core ∧
      j.metadata.finalizerList = x.metadata.finalizerList := by
  rw [Memory.recorded] at h
  split at h
  · obtain ⟨x, hx, hsame⟩ := Memory.exists_of_find?_modify
      (g := fun y : NodeIntent => (y.core, y.metadata.finalizerList)) h fun _ => rfl
    obtain ⟨hcore, hfinalizers⟩ := Prod.mk.inj hsame
    exact ⟨x, hx, hcore, hfinalizers⟩
  · exact ⟨j, h, rfl, rfl⟩

/-- **A pass takes its finalizer from no intent that is not being deleted.** -/
theorem finalizer_kept (hw : w.memory.Filed) {j : NodeIntent}
    (hj : (e.pass World.store (World.link c) key now w).2.memory.intents.find? k = some j)
    (hl : j.metadata.isDeleted = false) :
    ∃ x, w.memory.intents.find? k = some x ∧ j.core = x.core ∧
      (intentFinalizer ∈ x.metadata.finalizerList →
        intentFinalizer ∈ j.metadata.finalizerList) := by
  have hall : ∀ j, (e.pass World.store (World.link c) key now w).2.memory.intents.find? k =
      some j → j.metadata.isDeleted = false → ∃ x, w.memory.intents.find? k = some x ∧
        j.core = x.core ∧ (intentFinalizer ∈ x.metadata.finalizerList →
          intentFinalizer ∈ j.metadata.finalizerList) := by
    refine pass_preserves (P := fun m => ∀ j, m.intents.find? k = some j →
      j.metadata.isDeleted = false → ∃ x, w.memory.intents.find? k = some x ∧ j.core = x.core ∧
        (intentFinalizer ∈ x.metadata.finalizerList →
          intentFinalizer ∈ j.metadata.finalizerList)) (fun j hj _ => ⟨j, hj, rfl, id⟩)
      (fun i _ _ y hy _ => ?_) (fun i hi hdeleted y hy hly => ?_)
      (fun i condition m _ hm y hy hly => ?_) c now
    · rw [deployed_eq] at hy
      simp only [Memory.addFinalizer, Dict.find?_modify] at hy
      split at hy
      · obtain ⟨x, hx, rfl⟩ := Option.map_eq_some_iff.1 hy
        exact ⟨x, hx, rfl, fun h => Memory.mem_withFinalizer.2 (.inr h)⟩
      · exact ⟨y, hy, rfl, id⟩
    · -- The intent that is released is being deleted, and every other is left as it is.
      have hkey := hw.intents key i hi
      by_cases hk : k = i.metadata.key
      · obtain ⟨x, hx, hcore⟩ := Memory.core_removeFinalizer hy
        rw [hk, hkey] at hx
        obtain rfl : i = x := Option.some.inj (hi.symm.trans hx)
        rw [← NodeIntent.isDeleted_core, hcore, NodeIntent.isDeleted_core, hdeleted] at hly
        cases hly
      · rw [Memory.find?_removeFinalizer_ne hk] at hy
        exact ⟨y, hy, rfl, id⟩
    · obtain ⟨z, hz, hcore, hfinalizers⟩ := finalizer_recorded hy
      have hlz : z.metadata.isDeleted = false := by
        rw [← NodeIntent.isDeleted_core, ← hcore, NodeIntent.isDeleted_core]
        exact hly
      obtain ⟨x, hx, hcore', hkept⟩ := hm z hz hlz
      refine ⟨x, hx, hcore.trans hcore', ?_⟩
      rw [hfinalizers]
      exact hkept
  exact hall j hj hl

/-- **An intent that is not being deleted has the finalizer after a pass over it.** -/
theorem finalizer_added (hi : w.memory.intents.find? i.metadata.key = some i)
    (hl : i.metadata.isDeleted = false) {j : NodeIntent}
    (hj : (e.pass World.store (World.link c) i.metadata.key now w).2.memory.intents.find?
      i.metadata.key = some j) : intentFinalizer ∈ j.metadata.finalizerList := by
  obtain ⟨m, d⟩ := w
  rw [pass_of_live hi hl] at hj
  have hstored := Memory.find?_recorded
    (endCondition now (e.ending c i.metadata.key i m d).1) (find?_deployed (e := e) hi) rfl
  obtain rfl := Option.some.inj (hstored.symm.trans hj)
  exact Memory.mem_withFinalizer.2 (.inl rfl)

end Engine

/-! ## Histories -/

namespace Memory

def DistinctUids (m : Memory) : Prop :=
  ∀ j k x y uid, m.intents.find? j = some x → m.intents.find? k = some y →
    x.metadata.uid = some uid → y.metadata.uid = some uid → j = k

/-- No intent has the uid, and no part belongs to one that has had it. -/
structure Fresh (m : Memory) (uid : String) : Prop where
  intents : ∀ k i, m.intents.find? k = some i → i.metadata.uid ≠ some uid
  parts : ∀ part k b, m.ownership? part k = some b → ∀ o ∈ b.owners.getD [], o.uid ≠ uid

/-- What the environment may do: it adds intents with fresh uids only, takes neither the finalizer
nor the deletion mark from an intent that keeps its uid, and makes no parts. -/
structure Fosters (m n : Memory) : Prop where
  filed : n.Filed
  distinct : n.DistinctUids
  intents : ∀ k j uid, n.intents.find? k = some j → j.metadata.uid = some uid →
    m.Fresh uid ∨ ∃ i, m.intents.find? k = some i ∧ i.metadata.uid = some uid ∧
      (i.metadata.isDeleted = true → j.metadata.isDeleted = true) ∧
      (intentFinalizer ∈ i.metadata.finalizerList → intentFinalizer ∈ j.metadata.finalizerList)
  parts : ∀ part k b, n.ownership? part k = some b → m.ownership? part k = some b

/-- The intent that owns a part has the finalizer, unless it is being deleted. -/
structure Secured (m : Memory) : Prop where
  filed : m.Filed
  distinct : m.DistinctUids
  guarded : ∀ part k b, m.ownership? part k = some b → ∀ o ∈ b.owners.getD [],
    ∀ j x, m.intents.find? j = some x → x.metadata.uid = some o.uid →
      x.metadata.isDeleted = false → intentFinalizer ∈ x.metadata.finalizerList

variable {m n : Memory}

theorem uid_of_core {i j : NodeIntent} (h : j.core = i.core) :
    j.metadata.uid = i.metadata.uid := by
  have huid := congrArg (fun x : NodeIntent => x.metadata.uid) h
  exact huid

theorem DistinctUids.of_uid (h : m.DistinctUids)
    (hsame : ∀ k j, n.intents.find? k = some j →
      ∃ x, m.intents.find? k = some x ∧ j.metadata.uid = x.metadata.uid) : n.DistinctUids := by
  intro j k x y uid hx hy hxuid hyuid
  obtain ⟨x', hx', hxsame⟩ := hsame j x hx
  obtain ⟨y', hy', hysame⟩ := hsame k y hy
  exact h j k x' y' uid hx' hy' (hxsame.symm.trans hxuid) (hysame.symm.trans hyuid)

theorem DistinctUids.pass {δ : Type} {w : World δ} (h : w.memory.DistinctUids) (e : Engine)
    (c : Connector δ) (key : ObjectKey) (now : Instant) :
    (e.pass World.store (World.link c) key now w).2.memory.DistinctUids := by
  refine h.of_uid ?_
  intro k j hj
  obtain ⟨x, hx, hcore⟩ := Engine.core_pass hj
  exact ⟨x, hx, uid_of_core hcore⟩

theorem DistinctUids.addIntent (h : m.DistinctUids) (i : NodeIntent)
    (hfresh : ∀ uid, i.metadata.uid = some uid → m.Fresh uid) :
    (m.addIntent i).DistinctUids := by
  intro j k x y uid hx hy hxuid hyuid
  rw [Memory.addIntent, Dict.find?_insert] at hx hy
  split at hx <;> split at hy
  · next hj hk => rw [hj, hk]
  · obtain rfl := Option.some.inj hx
    exact absurd hyuid ((hfresh uid hxuid).intents k y hy)
  · obtain rfl := Option.some.inj hy
    exact absurd hxuid ((hfresh uid hyuid).intents j x hx)
  · exact h j k x y uid hx hy hxuid hyuid

/-- **A pass leaves everything secured**: it makes parts for one intent only, and that has the
finalizer afterwards. -/
theorem Secured.pass {δ : Type} {w : World δ} (h : Secured w.memory) (e : Engine)
    (c : Connector δ) (key : ObjectKey) (now : Instant) :
    Secured (e.pass World.store (World.link c) key now w).2.memory := by
  refine ⟨Engine.filed_pass h.filed e c key now, h.distinct.pass e c key now, ?_⟩
  intro part k b hb o ho j x hx huid hl
  obtain ⟨y, hy, hcore, hkept⟩ := Engine.finalizer_kept h.filed hx hl
  rw [uid_of_core hcore] at huid
  rw [← NodeIntent.isDeleted_core, hcore, NodeIntent.isDeleted_core] at hl
  rcases Engine.ownership_pass hb with hold | ⟨i, hi, hli, ns, name, uid, -, -, hiuid, rfl⟩
  · exact hkept (h.guarded part k b hold o ho j y hy huid hl)
  · -- The owner is the intent of the pass, since no other has its uid.
    obtain rfl := List.mem_singleton.1 ho
    obtain rfl := h.distinct j key y i uid hy hi huid hiuid
    obtain rfl := h.filed.intents j i hi
    exact Engine.finalizer_added hi hli hx

theorem Secured.fostered (h : Secured m) (hn : m.Fosters n) : Secured n := by
  refine ⟨hn.filed, hn.distinct, ?_⟩
  intro part k b hb o ho j x hx huid hl
  have hold := hn.parts part k b hb
  rcases hn.intents j x o.uid hx huid with hfresh | ⟨i, hi, hiuid, hmark, hkept⟩
  · exact absurd rfl (hfresh.parts part k b hold o ho)
  · have hli : i.metadata.isDeleted = false := by
      by_contra hdeleted
      rw [hmark (Bool.not_eq_false _ ▸ hdeleted)] at hl
      cases hl
    exact hkept (h.guarded part k b hold o ho j i hi hiuid hli)

/-- **In every history everything stays secured.** -/
theorem secured_reached {δ : Type} {w v : World δ} (h : Secured w.memory)
    (hv : World.Reached Fosters w v) : Secured v.memory :=
  hv.preserves h (fun _ e c key now hu => hu.pass e c key now) fun _ _ hm hn => hm.fostered hn

/-- A change that leaves intents and parts as they are is one that the environment may make. -/
theorem Fosters.of_eq (hn : n.Filed) (hd : m.DistinctUids) (hi : n.intents = m.intents)
    (hparts : ∀ part k b, n.ownership? part k = some b → m.ownership? part k = some b) :
    m.Fosters n := by
  refine ⟨hn, ?_, ?_, hparts⟩
  · rw [DistinctUids, hi]
    exact hd
  · intro k j uid hj huid
    rw [hi] at hj
    exact .inr ⟨j, hj, huid, id, id⟩

/-- A part lies in the namespace that it says it lives in. -/
theorem ns_of_ownership (h : m.Filed) {part : Part} {k : ObjectKey} {b : Ownership}
    (hb : m.ownership? part k = some b) : k.ns = b.ns.getD "" := by
  cases part with
  | pod =>
    obtain ⟨p, hp, rfl⟩ := Option.map_eq_some_iff.1 hb
    rw [← h.pods k p hp]
    rfl
  | attachment =>
    obtain ⟨a, ha, rfl⟩ := Option.map_eq_some_iff.1 hb
    rw [← h.attachments k a ha]
    rfl
  | claim =>
    obtain ⟨c, hc, rfl⟩ := Option.map_eq_some_iff.1 hb
    rw [← h.claims k c hc]
    rfl

end Memory

/-- **The environment may make every change of a run**, if an intent that it adds has a fresh
uid. -/
theorem Change.fosters {m : Memory} (hm : m.Filed) (hd : m.DistinctUids) (c : Change)
    (hfresh : ∀ i uid, c = .addIntent i → i.metadata.uid = some uid → m.Fresh uid) :
    m.Fosters (c.apply m) := by
  have hfiled := c.filed_apply hm
  cases c with
  | addIntent i =>
    have hi : ∀ uid, i.metadata.uid = some uid → m.Fresh uid := fun uid => hfresh i uid rfl
    refine ⟨hfiled, hd.addIntent i hi, ?_, fun _ _ _ hb => hb⟩
    intro k j uid hj huid
    rw [Change.apply, Memory.addIntent, Dict.find?_insert] at hj
    split at hj
    · obtain rfl := Option.some.inj hj
      exact .inl (hi uid huid)
    · exact .inr ⟨j, hj, huid, id, id⟩
  | addConfig c => exact .of_eq hfiled hd rfl fun _ _ _ hb => hb
  | addSecret s => exact .of_eq hfiled hd rfl fun _ _ _ hb => hb
  | setPodStatus j s =>
    refine .of_eq hfiled hd rfl ?_
    intro part k b hb
    cases part with
    | pod =>
      obtain ⟨p, hp, rfl⟩ := Option.map_eq_some_iff.1 hb
      obtain ⟨q, hq, hsame⟩ := Memory.exists_of_find?_modify
        (g := fun x : Pod => x.metadata.ownership) hp fun _ => rfl
      exact Option.map_eq_some_iff.2 ⟨q, hq, hsame.symm⟩
    | attachment => exact hb
    | claim => exact hb
  | markDeleted j since =>
    have hmarked : ∀ k x, (m.markDeleted j since).intents.find? k = some x →
        ∃ y, m.intents.find? k = some y ∧ x.metadata.uid = y.metadata.uid ∧
          (y.metadata.isDeleted = true → x.metadata.isDeleted = true) ∧
          x.metadata.finalizerList = y.metadata.finalizerList := by
      intro k x hx
      rw [Memory.markDeleted, Dict.find?_modify] at hx
      split at hx
      · obtain ⟨y, hy, rfl⟩ := Option.map_eq_some_iff.1 hx
        exact ⟨y, hy, rfl, fun _ => rfl, rfl⟩
      · exact ⟨x, hx, rfl, id, rfl⟩
    refine ⟨hfiled, hd.of_uid fun k x hx => ?_, ?_, fun _ _ _ hb => hb⟩
    · obtain ⟨y, hy, huid, -, -⟩ := hmarked k x hx
      exact ⟨y, hy, huid⟩
    · intro k x uid hx huid
      obtain ⟨y, hy, hsame, hdeleted, hfinalizers⟩ := hmarked k x hx
      refine .inr ⟨y, hy, hsame.symm.trans huid, hdeleted, ?_⟩
      rw [hfinalizers]
      exact id
  | refusePods message => exact .of_eq hfiled hd rfl fun _ _ _ hb => hb

/-- In the history from `w` to `v` the part under a key was made for an intent, which was not being
deleted, in a pass over it. -/
structure World.MadeFor {δ : Type} (w v : World δ) (i : NodeIntent) (part : Part) (k : ObjectKey)
    (b : Ownership) : Prop where
  live : i.metadata.isDeleted = false
  made : ∃ (u : World δ) (e : Engine) (c : Connector δ) (key : ObjectKey) (now : Instant),
    World.Reached Memory.Fosters w u ∧ u.memory.intents.find? key = some i ∧
      u.memory.ownership? part k ≠ some b ∧
      (e.pass World.store (World.link c) key now u).2.memory.ownership? part k = some b ∧
      World.Reached Memory.Fosters (e.pass World.store (World.link c) key now u).2 v

theorem World.MadeFor.trans {δ : Type} {w v u : World δ} {i : NodeIntent} {part : Part}
    {k : ObjectKey} {b : Ownership} (h : World.MadeFor w v i part k b)
    (hu : World.Reached Memory.Fosters v u) : World.MadeFor w u i part k b := by
  obtain ⟨hlive, t, e, c, key, now, ht, hi, hfree, hmade, hv⟩ := h
  exact ⟨hlive, t, e, c, key, now, ht, hi, hfree, hmade, hv.trans hu⟩

/-- **Whatever is stored was made for the intent that it belongs to**, if the history began with
nothing. -/
theorem made_reached {δ : Type} {w v : World δ}
    (hnone : ∀ part k, w.memory.ownership? part k = none)
    (hv : World.Reached Memory.Fosters w v) {part : Part} {k : ObjectKey} {b : Ownership}
    (hb : v.memory.ownership? part k = some b) :
    ∃ i, World.MadeFor w v i part k b ∧ b.BelongsTo i := by
  induction hv with
  | start =>
    rw [hnone] at hb
    cases hb
  | @pass u prior e c key now ih =>
    have hlast : World.Reached Memory.Fosters u (e.pass World.store (World.link c) key now u).2 :=
      .pass .start e c key now
    by_cases hold : u.memory.ownership? part k = some b
    · obtain ⟨i, hmade, hbelongs⟩ := ih hold
      exact ⟨i, hmade.trans hlast, hbelongs⟩
    · obtain ⟨i, hi, hl, hbelongs⟩ := (Engine.ownership_pass hb).resolve_left hold
      exact ⟨i, ⟨hl, u, e, c, key, now, prior, hi, hold, hb, .start⟩, hbelongs⟩
  | @change u prior m hm d ih =>
    obtain ⟨i, hmade, hbelongs⟩ := ih (hm.parts part k b hb)
    exact ⟨i, hmade.trans (.change .start hm d), hbelongs⟩

/-- **Nothing is there without an owner, nor an owner without the finalizer.** In every history that
begins with no parts, in which the environment adds intents with fresh uids only and takes neither
the finalizer nor a deletion mark from any, a stored part was made for an intent, has this intent as
its one owner and controller, and lives in its namespace; and an intent with the uid of this owner
has the finalizer unless it is being deleted. An intent without a uid or a name gets no parts. -/
theorem owned_and_guarded {δ : Type} (w v : World δ) (hw : w.memory.Filed)
    (huids : w.memory.DistinctUids) (hnone : ∀ part k, w.memory.ownership? part k = none)
    (hv : World.Reached Memory.Fosters w v) :
    (∀ part k b, v.memory.ownership? part k = some b → ∃ i ns name uid,
      World.MadeFor w v i part k b ∧ i.metadata.ns = some ns ∧ i.metadata.name = some name ∧
      i.metadata.uid = some uid ∧ k.ns = ns ∧
      b = ⟨some ns, some [⟨ResourceKind.nodeIntent.apiVersion, "NodeIntent", name, uid,
        some true⟩]⟩ ∧
      ∀ j x, v.memory.intents.find? j = some x → x.metadata.uid = some uid →
        x.metadata.isDeleted = false → intentFinalizer ∈ x.metadata.finalizerList) ∧
    ∀ key i, v.memory.intents.find? key = some i → i.metadata.uid = none ∨ i.metadata.name = none →
      ∀ (e : Engine) (c : Connector δ) (now : Instant),
        (e.pass World.store (World.link c) key now v).2.memory.pods = v.memory.pods ∧
        (e.pass World.store (World.link c) key now v).2.memory.attachments =
          v.memory.attachments ∧
        (e.pass World.store (World.link c) key now v).2.memory.claims = v.memory.claims := by
  have hbegin : w.memory.Secured := by
    refine ⟨hw, huids, ?_⟩
    intro part k b hb
    rw [hnone] at hb
    cases hb
  have hend := Memory.secured_reached hbegin hv
  constructor
  · intro part k b hb
    obtain ⟨i, hmade, ns, name, uid, hns, hname, huid, rfl⟩ := made_reached hnone hv hb
    have hlives := Memory.ns_of_ownership hend.filed hb
    exact ⟨i, ns, name, uid, hmade, hns, hname, huid, hlives, rfl,
      hend.guarded part k _ hb _ List.mem_cons_self⟩
  · intro key i hi hmissing e c now
    have hid : ¬i.Identified := by
      rintro ⟨-, hname, huid⟩
      rcases hmissing with h | h
      · rw [h] at huid
        cases huid
      · rw [h] at hname
        cases hname
    have hsame := Engine.sameParts_pass_of_not_identified hi hid e c now
    exact ⟨hsame.pods, hsame.attachments, hsame.claims⟩

namespace Sample

/-- The two nodes after a pass over each, when the first is being deleted. -/
def thinned : World Bench :=
  ⟨(Change.markDeleted ⟨"fabric", "a"⟩ default).apply (shelf.after rounds).memory, {}⟩

theorem distinctUids_shelf : shelf.memory.DistinctUids := by
  have hempty : ({} : Memory).DistinctUids := by
    intro j k x y uid hx
    cases hx
  have hfirst : (({} : Memory).addIntent (node "a" "1")).DistinctUids := by
    refine hempty.addIntent _ ?_
    intro uid _
    refine ⟨fun k i hi => (by cases hi), fun part k b hb => ?_⟩
    cases part <;> cases hb
  refine hfirst.addIntent (node "a-b" "2") ?_
  intro uid huid
  obtain rfl : "2" = uid := Option.some.inj huid
  refine ⟨fun k i hi => ?_, fun part k b hb => ?_⟩
  · rw [Memory.addIntent, Dict.find?_insert] at hi
    split at hi
    · obtain rfl := Option.some.inj hi
      decide
    · cases hi
  · cases part <;> cases hb

theorem reached_thinned : World.Reached Memory.Fosters shelf thinned := by
  have hpasses : World.Reached Memory.Fosters shelf (shelf.after rounds) :=
    .pass (.pass .start {} Bench.connector _ default) {} Bench.connector _ default
  have hdistinct : (shelf.after rounds).memory.DistinctUids :=
    (distinctUids_shelf.pass {} Bench.connector ⟨"fabric", "a"⟩ default).pass {} Bench.connector
      ⟨"fabric", "a-b"⟩ default
  refine .change hpasses (Change.fosters (filed_after filed_shelf rounds) hdistinct _ ?_) {}
  intro i uid h
  cases h

end Sample

/-- In the sample the pod of the second node belongs to it, and it has the finalizer. -/
theorem owned_and_guarded_sample : Sample.shelf.memory.Filed ∧
    Sample.shelf.memory.DistinctUids ∧
    (∀ part k, Sample.shelf.memory.ownership? part k = none) ∧
    World.Reached Memory.Fosters Sample.shelf Sample.thinned ∧
    ∃ i b, Sample.thinned.memory.ownership? .pod ⟨"fabric", "a-b"⟩ = some b ∧
      World.MadeFor Sample.shelf Sample.thinned i .pod ⟨"fabric", "a-b"⟩ b ∧
      i.metadata.uid = some "2" ∧ (b.owners.getD []).map OwnerReference.uid = ["2"] ∧
      ∀ j x, Sample.thinned.memory.intents.find? j = some x → x.metadata.uid = some "2" →
        x.metadata.isDeleted = false → intentFinalizer ∈ x.metadata.finalizerList := by
  have hnone : ∀ part k, Sample.shelf.memory.ownership? part k = none := by
    intro part k
    cases part <;> rfl
  obtain ⟨p, hp, -, hpc⟩ := Engine.exists_plan_iff.2
    ⟨Sample.resolved_a, (by decide : (Sample.node "a" "1").Identified)⟩
  obtain ⟨q, hq, -, -⟩ := Engine.exists_plan_iff.2
    ⟨Sample.resolved_ab, (by decide : (Sample.node "a-b" "2").Identified)⟩
  obtain ⟨hpod, -⟩ := first_claim_stays
    (i := Sample.node "a" "1") (j := Sample.node "a-b" "2") (v := ⟨"b-c", "/data", {}⟩)
    Sample.filed_shelf rfl rfl rfl rfl rfl (by decide) hp hq rfl rfl
    (by rw [hpc]; exact List.mem_cons_self) rfl default default
  have hstored : Sample.thinned.memory.ownership? .pod ⟨"fabric", "a-b"⟩ =
      some q.pod.metadata.ownership :=
    congrArg (Option.map fun x : Pod => x.metadata.ownership) hpod
  obtain ⟨hparts, -⟩ := owned_and_guarded Sample.shelf Sample.thinned Sample.filed_shelf
    Sample.distinctUids_shelf hnone Sample.reached_thinned
  obtain ⟨i, ns, name, uid, hmade, -, -, huid, -, hb, hguarded⟩ := hparts _ _ _ hstored
  obtain ⟨ns', name', uid', -, -, huid', hb'⟩ := Engine.belongsTo_pod_of_plan hq
  obtain rfl : "2" = uid' := Option.some.inj huid'
  rw [hb'] at hb
  simp only [Ownership.mk.injEq, Option.some.injEq, List.cons.injEq, OwnerReference.mk.injEq] at hb
  obtain rfl : "2" = uid := hb.2.1.2.2.2.1
  refine ⟨Sample.filed_shelf, Sample.distinctUids_shelf, hnone, Sample.reached_thinned, i, _,
    hstored, hmade, huid, ?_, hguarded⟩
  rw [hb']
  rfl

end NodeDeploy
