import NodeDeploy.Proofs.ApiServer
import NodeDeploy.Proofs.StandIn

/-! # Finalizers of several clients

The store of a cluster computes the finalizers that an intent shall have from those that it had when
it was read, and a patch replaces them all. Whatever the other clients of the cluster have done to
their own finalizers in between is undone by it.

* `FinalizerChange`: a finalizer is added or taken away, by the store (`ask`) or by a client that
  does it at once (`run`).
* `FinalizerChange.kept_foldl`: other clients leave the finalizer of the store alone.
* `FinalizerChange.ask_of_unsettled`: what the patch of the store leaves.
* `finalizers_of_snapshot`: no change of the others is lost exactly if nothing is sent, or if they
  have the finalizers that they had when the intent was read.
* `hold_lost`: a finalizer that another client has added is gone.
-/

namespace NodeDeploy

/-! ## Intents of a cluster -/

def Documents.intent? (ds : Documents) (key : ObjectKey) : Option NodeIntent :=
  ((ds .nodeIntent).find? key).bind fun d => NodeIntent.ofJson? d.json

def Documents.finalizers (ds : Documents) (key : ObjectKey) : List String :=
  (ds.intent? key).elim [] (·.metadata.finalizerList)

theorem Documents.intent?_eq_some_iff {ds : Documents} {key : ObjectKey} {i : NodeIntent} :
    ds.intent? key = some i ↔
      ∃ d, (ds .nodeIntent).find? key = some d ∧ NodeIntent.ofJson? d.json = some i :=
  Option.bind_eq_some_iff

/-- What becomes of an intent under a patch of its finalizers: it goes away if it is being deleted
and none is left. -/
def NodeIntent.patched (i : NodeIntent) (l : List String) : Option NodeIntent :=
  if i.metadata.isDeleted && l.isEmpty then none
  else some { i with metadata := { i.metadata with finalizers := some l } }

/-- Whether it goes away or not, the finalizers that are left are those of the patch. -/
theorem Documents.finalizers_of_patched {ds : Documents} {key : ObjectKey} {i : NodeIntent}
    {l : List String} (h : ds.intent? key = i.patched l) : ds.finalizers key = l := by
  rw [finalizers, h, NodeIntent.patched]
  split
  · next hgone =>
    obtain ⟨-, hempty⟩ := Bool.and_eq_true_iff.1 hgone
    exact (List.isEmpty_iff.1 hempty).symm
  · rfl

/-- The intent after a patch of its finalizers. -/
theorem Documents.intent?_finalizersPatch {ds : Documents} {key : ObjectKey} {d : Document}
    {i : NodeIntent} (hread : NodeIntent.ofJson? d.json = some i) (l : List String) :
    Documents.intent? (ds.change .nodeIntent fun table =>
      if (d.merged (.withoutStatus (.finalizersPatch l))).isReleased then table.erase key
      else table.insert key (d.merged (.withoutStatus (.finalizersPatch l)))) key =
        i.patched l := by
  rw [intent?, change_self, NodeIntent.isReleased_finalizersPatch hread, NodeIntent.patched]
  split
  · rw [Dict.find?_erase_self]
    rfl
  · rw [Dict.find?_insert_self]
    exact NodeIntent.ofJson?_finalizersPatch hread l

/-! ## Changes -/

inductive FinalizerChange where
  | add (finalizer : String)
  | remove (finalizer : String)
  deriving DecidableEq, Repr

namespace FinalizerChange

def finalizer : FinalizerChange → String
  | add f => f
  | remove f => f

/-- The finalizers after a change: none is added twice. -/
def on : FinalizerChange → List String → List String
  | add f, l => if l.contains f then l else l ++ [f]
  | remove f, l => l.filter (· != f)

/-- Whether a change has nothing to do. -/
def Settled (c : FinalizerChange) (l : List String) : Prop := c.on l = l

instance (c : FinalizerChange) (l : List String) : Decidable (c.Settled l) :=
  inferInstanceAs (Decidable (c.on l = l))

/-- A change leaves the finalizers of all others alone. -/
theorem mem_on_ne {c : FinalizerChange} {g : String} (h : g ≠ c.finalizer) (l : List String) :
    g ∈ c.on l ↔ g ∈ l := by
  cases c with
  | add f =>
    have hne : g ≠ f := h
    simp only [on]
    split <;> simp [hne]
  | remove f =>
    have hne : g ≠ f := h
    simp [on, hne]

/-- After a change, the finalizer that it is about is there exactly if it was to be added. -/
theorem mem_on_self (c : FinalizerChange) (l : List String) :
    c.finalizer ∈ c.on l ↔ ∃ f, c = add f := by
  cases c with
  | add f =>
    simp only [on, finalizer]
    split <;> simp_all
  | remove f => simp [on, finalizer]

theorem settled_add_iff {f : String} {l : List String} : (add f).Settled l ↔ f ∈ l := by
  simp only [Settled, on]
  split <;> simp_all

theorem settled_remove_iff {f : String} {l : List String} : (remove f).Settled l ↔ f ∉ l := by
  simp only [Settled, on, List.filter_eq_self, bne_iff_ne]
  exact ⟨fun h hf => h f hf rfl, fun h g hg hgf => h (hgf ▸ hg)⟩

/-- Whether a change has something to do is told by the finalizer that it is about. -/
theorem settled_congr {c : FinalizerChange} {l m : List String}
    (h : c.finalizer ∈ l ↔ c.finalizer ∈ m) : c.Settled l ↔ c.Settled m := by
  cases c with
  | add f => rw [settled_add_iff, settled_add_iff]; exact h
  | remove f => rw [settled_remove_iff, settled_remove_iff]; exact not_congr h

/-- Two lists are the same after a change exactly if the others' finalizers are the same. -/
theorem mem_on_iff {c : FinalizerChange} {l m : List String} :
    (∀ g, g ∈ c.on l ↔ g ∈ c.on m) ↔ ∀ g, g ≠ c.finalizer → (g ∈ l ↔ g ∈ m) := by
  constructor
  · intro h g hg
    rw [← mem_on_ne hg l, h g, mem_on_ne hg m]
  · intro h g
    by_cases hg : g = c.finalizer
    · rw [hg, mem_on_self, mem_on_self]
    · rw [mem_on_ne hg, mem_on_ne hg, h g hg]

/-! ## Other clients -/

/-- A change of another client, which the cluster makes to the finalizers as they are. -/
def run (key : ObjectKey) (ds : Documents) (c : FinalizerChange) : Documents :=
  match ds.intent? key with
  | some i =>
    ((ApiCall.merge .nodeIntent key (.finalizersPatch (c.on i.metadata.finalizerList))).run ds).2
  | none => ds

/-- One change of another client, as it is read off the intent. -/
theorem intent?_run (key : ObjectKey) (ds : Documents) (c : FinalizerChange) :
    (c.run key ds).intent? key =
      (ds.intent? key).bind fun i => i.patched (c.on i.metadata.finalizerList) := by
  cases hi : ds.intent? key with
  | none => rw [run, hi, hi, Option.bind_none]
  | some i =>
    obtain ⟨d, hfound, hread⟩ := Documents.intent?_eq_some_iff.1 hi
    rw [run, hi, Option.bind_some]
    simp only [ApiCall.run, ApiCall.onFound, hfound]
    exact Documents.intent?_finalizersPatch hread _

/-- A change of another client leaves an intent that can be read, or takes the intent away. -/
theorem run_cases (c : FinalizerChange) {key : ObjectKey} {ds : Documents} {i : NodeIntent}
    (hi : ds.intent? key = some i) :
    ((c.run key ds) .nodeIntent).find? key = none ∨
      (c.run key ds).intent? key = some { i with metadata := { i.metadata with
        finalizers := some (c.on i.metadata.finalizerList) } } := by
  have hrun := intent?_run key ds c
  rw [hi, Option.bind_some, NodeIntent.patched] at hrun
  split at hrun
  · next hreleased =>
    left
    obtain ⟨d, hfound, hread⟩ := Documents.intent?_eq_some_iff.1 hi
    rw [run, hi]
    simp only [ApiCall.run, ApiCall.onFound, hfound, Documents.change_self,
      NodeIntent.isReleased_finalizersPatch hread, hreleased, if_true, Dict.find?_erase_self]
  · exact .inr hrun

/-- Where there is no intent, other clients have nothing to do. -/
theorem foldl_run_of_missing {key : ObjectKey} {ds : Documents} (h : ds.intent? key = none)
    (l : List FinalizerChange) : l.foldl (run key) ds = ds := by
  induction l with
  | nil => rfl
  | cons c l ih =>
    have hrun : run key ds c = ds := by rw [run, h]
    rw [List.foldl_cons, hrun, ih]

/-- What other clients leave to a client: they do not mark the intent as deleted, and do not touch
the finalizer of the client. -/
structure Kept (c : FinalizerChange) (i j : NodeIntent) : Prop where
  isDeleted : j.metadata.isDeleted = i.metadata.isDeleted
  finalizer : c.finalizer ∈ j.metadata.finalizerList ↔ c.finalizer ∈ i.metadata.finalizerList

/-- **Other clients leave the finalizer of a client alone**, or the intent goes away. -/
theorem kept_foldl (c : FinalizerChange) {key : ObjectKey} {l : List FinalizerChange}
    (hown : ∀ o ∈ l, o.finalizer ≠ c.finalizer) {ds : Documents} {i : NodeIntent}
    (hi : ds.intent? key = some i) :
    ((l.foldl (run key) ds) .nodeIntent).find? key = none ∨
      ∃ j, (l.foldl (run key) ds).intent? key = some j ∧ Kept c i j := by
  induction l generalizing ds i with
  | nil => exact .inr ⟨i, hi, rfl, .rfl⟩
  | cons o l ih =>
    rw [List.foldl_cons]
    rcases run_cases o hi with hgone | hchanged
    · have hmissing : (o.run key ds).intent? key = none := by
        rw [Documents.intent?, hgone, Option.bind_none]
      exact .inl (by rwa [foldl_run_of_missing hmissing])
    · have hrest := fun p hp => hown p (List.mem_cons_of_mem o hp)
      rcases ih hrest hchanged with hgone | ⟨j, hj, hkept⟩
      · exact .inl hgone
      · have hne : c.finalizer ≠ o.finalizer := (hown o List.mem_cons_self).symm
        exact .inr ⟨j, hj, hkept.isDeleted, hkept.finalizer.trans (mem_on_ne hne _)⟩

/-! ## The store -/

section Store

variable {σ : Type}

def ask (st : Store σ) : FinalizerChange → NodeIntent → Action σ StoreError Unit
  | add f, i => st.addFinalizer i f
  | remove f, i => st.removeFinalizer i f

variable {t : Transport σ} {c : FinalizerChange} {i : NodeIntent}

/-- Nothing is sent for a change that has nothing to do. -/
theorem ask_of_settled (h : c.Settled i.metadata.finalizerList) :
    c.ask (ClusterStore.store t) i = pure () := by
  cases c with
  | add f =>
    have hf : i.metadata.finalizerList.contains f = true :=
      List.contains_iff_mem.2 (settled_add_iff.1 h)
    simp only [ask, ClusterStore.store, ClusterStore.addFinalizer, hf, if_true]
  | remove f =>
    have hf : ¬i.metadata.finalizerList.contains f = true := fun hf =>
      settled_remove_iff.1 h (List.contains_iff_mem.1 hf)
    simp only [ask, ClusterStore.store, ClusterStore.removeFinalizer, if_neg hf]

/-- Otherwise the finalizers are replaced by those of the intent as it was read, changed. -/
theorem ask_of_unsettled (h : ¬c.Settled i.metadata.finalizerList) :
    c.ask (ClusterStore.store t) i =
      ClusterStore.patchFinalizers t i (c.on i.metadata.finalizerList) := by
  cases c with
  | add f =>
    have hf : ¬i.metadata.finalizerList.contains f = true := fun hf =>
      h (settled_add_iff.2 (List.contains_iff_mem.1 hf))
    simp only [ask, ClusterStore.store, ClusterStore.addFinalizer, if_neg hf, on]
  | remove f =>
    have hf : i.metadata.finalizerList.contains f = true := by
      by_contra hf
      exact h (settled_remove_iff.2 fun hmem => hf (List.contains_iff_mem.2 hmem))
    simp only [ask, ClusterStore.store, ClusterStore.removeFinalizer, hf, if_true, on]

variable {documents : σ → Documents} (hs : Serves t documents) (hi : i.metadata.Filed) {s : σ}
include hs hi

/-- **A patch replaces the finalizers**, whatever they have become. -/
theorem patch_of_found {j : NodeIntent} (hj : (documents s).intent? i.metadata.key = some j)
    (l : List String) :
    ∃ s', ClusterStore.patchFinalizers t i l s = (.ok (), s') ∧
      (documents s').intent? i.metadata.key = j.patched l := by
  obtain ⟨d, hfound, hread⟩ := Documents.intent?_eq_some_iff.1 hj
  obtain ⟨s', hmerge, hdocuments⟩ := hs.merge (by decide) hi.addressable hfound
    (NodeIntent.ofJson?_finalizersPatch hread l)
  refine ⟨s', ?_, ?_⟩
  · rw [ClusterStore.patchFinalizers, hi.key_eq.1]
    exact Action.mapError_ok hmerge _
  · rw [hdocuments]
    exact Documents.intent?_finalizersPatch hread l

/-- A patch of an intent that has gone away is refused. -/
theorem patch_of_missing (hmissing : ((documents s) .nodeIntent).find? i.metadata.key = none)
    (l : List String) :
    ∃ s' refusal, ClusterStore.patchFinalizers t i l s =
        (.error (.cluster (.refused refusal)), s') ∧
      refusal.reason = "NotFound" ∧ documents s' = documents s := by
  obtain ⟨s', refusal, hmerge, hreason, hdocuments⟩ :=
    hs.merge_missing (by decide) hi.addressable hmissing (.finalizersPatch l) NodeIntent.ofJson?
  refine ⟨s', refusal, ?_, hreason, hdocuments⟩
  rw [ClusterStore.patchFinalizers, hi.key_eq.1]
  exact Action.mapError_error hmerge _

end Store

end FinalizerChange

/-! ## A change and those of others in between -/

open FinalizerChange in
/-- **Whose finalizers are lost.** An intent is read, other clients change their finalizers of it,
and a store is asked for a change of its own, given the intent as it was read. If there is something
to do, the finalizers that are left are those of the intent as it was read, changed. So what the
others did is there exactly if nothing was sent, or if they had what they had at first. An intent
that they let go is not patched. -/
theorem finalizers_of_snapshot {σ : Type} {t : Transport σ} {documents : σ → Documents}
    (hs : Serves t documents) (c : FinalizerChange) {i : NodeIntent} (hi : i.metadata.Filed)
    {s s₁ s₂ : σ}
    (hget : (ClusterStore.store t).getIntent i.metadata.key s = (.ok (some i), s₁))
    {others : List FinalizerChange} (hown : ∀ o ∈ others, o.finalizer ≠ c.finalizer)
    (hothers : documents s₂ = others.foldl (run i.metadata.key) (documents s₁)) :
    ∃ r s₃, c.ask (ClusterStore.store t) i s₂ = (r, s₃) ∧
      (∀ j, (documents s₂).intent? i.metadata.key = some j →
        r = .ok () ∧
        (documents s₃).intent? i.metadata.key =
          (if c.Settled i.metadata.finalizerList then some j
          else j.patched (c.on i.metadata.finalizerList)) ∧
        ((∀ g, g ∈ (documents s₃).finalizers i.metadata.key ↔
            g ∈ c.on j.metadata.finalizerList) ↔
          c.Settled i.metadata.finalizerList ∨ ∀ g, g ≠ c.finalizer →
            (g ∈ j.metadata.finalizerList ↔ g ∈ i.metadata.finalizerList))) ∧
      ((documents s₂).intent? i.metadata.key = none →
        (documents s₃).intent? i.metadata.key = none ∧
        (r = .ok () ↔ c.Settled i.metadata.finalizerList)) := by
  have hread : (documents s₁).intent? i.metadata.key = some i := by
    obtain ⟨d, hfound, hread, hdocuments⟩ :=
      hs.document_of_find (by decide) hi.addressable (Action.of_mapError_ok hget)
    rw [hdocuments]
    exact Documents.intent?_eq_some_iff.2 ⟨d, hfound, hread⟩
  have hleft := kept_foldl c hown hread
  rw [← hothers] at hleft
  by_cases hsettled : c.Settled i.metadata.finalizerList
  · refine ⟨.ok (), s₂, by rw [ask_of_settled hsettled, Action.run_pure],
      fun j hj => ⟨rfl, ?_, ?_⟩, fun hmissing => ⟨hmissing, by simp [hsettled]⟩⟩
    · rw [if_pos hsettled, hj]
    · have hkept : c.Settled j.metadata.finalizerList := by
        rcases hleft with hgone | ⟨j', hj', hkept⟩
        · rw [Documents.intent?, hgone] at hj
          cases hj
        · obtain rfl : j' = j := Option.some.inj (hj'.symm.trans hj)
          exact (settled_congr hkept.finalizer).2 hsettled
      have hon : c.on j.metadata.finalizerList = j.metadata.finalizerList := hkept
      simp [Documents.finalizers, hj, hon, hsettled]
  · rw [ask_of_unsettled hsettled]
    cases hj : (documents s₂).intent? i.metadata.key with
    | some j =>
      obtain ⟨s₃, hpatch, hpatched⟩ := patch_of_found hs hi hj (c.on i.metadata.finalizerList)
      refine ⟨.ok (), s₃, hpatch, fun j' hj' => ⟨rfl, ?_, ?_⟩, by simp⟩
      all_goals obtain rfl := Option.some.inj hj'
      · rw [if_neg hsettled, hpatched]
      · rw [Documents.finalizers_of_patched hpatched, mem_on_iff]
        simp only [hsettled, false_or]
        exact forall₂_congr fun g _ => iff_comm
    | none =>
      have hgone : ((documents s₂) .nodeIntent).find? i.metadata.key = none := by
        rcases hleft with hgone | ⟨j, hj', -⟩
        · exact hgone
        · cases hj.symm.trans hj'
      obtain ⟨s₃, refusal, hpatch, -, hdocuments⟩ :=
        patch_of_missing hs hi hgone (c.on i.metadata.finalizerList)
      exact ⟨_, s₃, hpatch, by simp, fun _ => ⟨by rw [hdocuments, hj], by simp [hsettled]⟩⟩

namespace Sample

theorem fits_intent : intent.Fits :=
  ⟨⟨by simp [intent], by simp [intent]⟩, by simp [intent]⟩

def fresh : Documents :=
  Documents.change .nodeIntent
    (·.insert key (.of intent.toJson (NodeIntent.survives fits_intent).plain)) fun _ => {}

/-- The change of another client, which has to see the intent before it goes away. -/
def hold : FinalizerChange := .add "example.com/hold"

theorem intent?_fresh : fresh.intent? key = some intent := by
  have hreads : NodeIntent.ofJson? (Document.of intent.toJson
    (NodeIntent.survives fits_intent).plain).json = some intent :=
    (NodeIntent.survives fits_intent).reads
  rw [Documents.intent?, fresh, Documents.change_self, Dict.find?_insert_self]
  exact hreads

def held (l : List String) : NodeIntent :=
  { intent with metadata := { intent.metadata with finalizers := some l } }

theorem intent?_held :
    (hold.run key fresh).intent? key = some (held ["example.com/hold"]) := by
  rw [FinalizerChange.intent?_run, intent?_fresh]
  rfl

theorem intent?_relieved :
    ((FinalizerChange.remove "example.com/hold").run key (hold.run key fresh)).intent? key =
      some (held []) := by
  rw [FinalizerChange.intent?_run, intent?_held]
  rfl

theorem getIntent_fresh :
    (ClusterStore.store ApiServer.transport).getIntent key fresh = (.ok (some intent), fresh) := by
  have hfound : Option.Rel (fun d i => NodeIntent.ofJson? d.json = some i)
      ((fresh .nodeIntent).find? key) (some intent) := by
    obtain ⟨d, hd, hread⟩ := Documents.intent?_eq_some_iff.1 intent?_fresh
    rw [hd]
    exact .some hread
  obtain ⟨ds, hfind, hds⟩ :=
    ApiServer.serves.find (s := fresh) (by decide) addressable hfound
  have hds : ds = fresh := hds
  rw [hds] at hfind
  have hget : (ClusterStore.store ApiServer.transport).getIntent key =
      (ClusterStore.find ApiServer.transport .nodeIntent NodeIntent.ofJson? key).mapError
        .cluster := rfl
  rw [hget]
  exact Action.mapError_ok hfind _

end Sample

/-- Another client puts its hold on the intent and takes it away again. -/
theorem finalizers_of_snapshot_sample :
    ∃ r ds, (FinalizerChange.add intentFinalizer).ask (ClusterStore.store ApiServer.transport)
        Sample.intent
        ((FinalizerChange.remove "example.com/hold").run Sample.key
          (Sample.hold.run Sample.key Sample.fresh)) = (r, ds) ∧ r = .ok () ∧
      ∀ g, g ∈ ds.finalizers Sample.key ↔ g ∈ [intentFinalizer] := by
  have hown : ∀ o ∈ [Sample.hold, .remove "example.com/hold"],
      o.finalizer ≠ (FinalizerChange.add intentFinalizer).finalizer := by decide
  obtain ⟨r, ds, hask, hfound, -⟩ := finalizers_of_snapshot (i := Sample.intent) ApiServer.serves
    (.add intentFinalizer) (Sample.filed rfl rfl) Sample.getIntent_fresh hown rfl
  obtain ⟨hr, -, hkept⟩ := hfound _ Sample.intent?_relieved
  exact ⟨r, ds, hask, hr, hkept.2 (.inr fun g _ => Iff.rfl)⟩

/-- **A finalizer of another client is lost**, if it was added after the intent was read. -/
theorem hold_lost :
    (ClusterStore.store ApiServer.transport).getIntent Sample.key Sample.fresh =
      (.ok (some Sample.intent), Sample.fresh) ∧
    (Sample.hold.run Sample.key Sample.fresh).finalizers Sample.key = ["example.com/hold"] ∧
    ∃ ds, (ClusterStore.store ApiServer.transport).addFinalizer Sample.intent intentFinalizer
        (Sample.hold.run Sample.key Sample.fresh) = (.ok (), ds) ∧
      ds.finalizers Sample.key = [intentFinalizer] := by
  have hunsettled : ¬(FinalizerChange.add intentFinalizer).Settled
    Sample.intent.metadata.finalizerList := by decide
  have hon : (FinalizerChange.add intentFinalizer).on Sample.intent.metadata.finalizerList =
    [intentFinalizer] := rfl
  have hsent := FinalizerChange.ask_of_unsettled (t := ApiServer.transport) hunsettled
  rw [hon, FinalizerChange.ask] at hsent
  obtain ⟨ds, hpatch, hpatched⟩ := FinalizerChange.patch_of_found (i := Sample.intent)
    ApiServer.serves (Sample.filed rfl rfl) Sample.intent?_held [intentFinalizer]
  refine ⟨Sample.getIntent_fresh, ?_, ds, ?_, Documents.finalizers_of_patched hpatched⟩
  · rw [Documents.finalizers, Sample.intent?_held]
    rfl
  · rw [hsent]
    exact hpatch

end NodeDeploy
