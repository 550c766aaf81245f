import NodeDeploy.Proofs.ApiServer
import NodeDeploy.Proofs.Client
import NodeDeploy.Proofs.Exchanges
import NodeDeploy.Proofs.Mirrors

/-! # A store in memory stands for that of a cluster

A store in memory answers as the store of a cluster does, if nobody else is at work on the cluster
and what is asked can be sent to it: the objects have a namespace and a name that can be addressed,
their numbers and times fit the cluster, and an intent is handed over as it is stored, but for its
status. A status without conditions is the exception, as the cluster keeps the conditions that a
patch does not mention.

* `StoreRequest.Fits`: what is asked of a call.
* `Mirrors.answer`: one call has the same answer, and the memory mirrors the cluster again.
* `stands_in`: so do all calls of a run.
* `apart_unnamed_fractional`: the two part ways over an object without a name, and over a deletion
  within a second.
-/

namespace NodeDeploy

/-! ## Calls and answers -/

/-- What a call of a store is answered with; why it failed is left out. -/
inductive StoreAnswer where
  | done
  | intent (i : Option NodeIntent)
  | config (c : Option NodeConfig)
  | configs (l : List NodeConfig)
  | written (b : Bool)
  | pod (p : Option Pod)
  | secret (s : Option Secret)
  | failed
  deriving DecidableEq

section Answers

variable {σ : Type}

def Action.answered {α : Type} (a : Action σ StoreError α) (f : α → StoreAnswer) (s : σ) :
    StoreAnswer × σ :=
  match a s with
  | (.ok x, t) => (f x, t)
  | (.error _, t) => (.failed, t)

def Store.answer (st : Store σ) : StoreRequest → σ → StoreAnswer × σ
  | .getIntent k => (st.getIntent k).answered .intent
  | .updateStatus i => (st.updateStatus i).answered fun _ => .done
  | .addFinalizer i f => (st.addFinalizer i f).answered fun _ => .done
  | .removeFinalizer i f => (st.removeFinalizer i f).answered fun _ => .done
  | .getConfig k => (st.getConfig k).answered .config
  | .listConfigs ns => (st.listConfigs ns).answered .configs
  | .applyAttachment a => (st.applyAttachment a).answered .written
  | .applyClaim c => (st.applyClaim c).answered .written
  | .getPod k => (st.getPod k).answered .pod
  | .createPod p => (st.createPod p).answered fun _ => .done
  | .deletePod k => (st.deletePod k).answered fun _ => .done
  | .getSecret k => (st.getSecret k).answered .secret

def Store.answers (st : Store σ) : List StoreRequest → σ → List StoreAnswer × σ
  | [], s => ([], s)
  | r :: rest, s =>
    let (a, s) := st.answer r s
    let (l, s) := st.answers rest s
    (a :: l, s)

theorem Store.answers_cons (st : Store σ) (r : StoreRequest) (rest : List StoreRequest) (s : σ) :
    st.answers (r :: rest) s =
      ((st.answer r s).1 :: (st.answers rest (st.answer r s).2).1,
        (st.answers rest (st.answer r s).2).2) := rfl

end Answers

/-- Metadata that gives its object a key that can be addressed. -/
structure Metadata.Filed (m : Metadata) : Prop where
  ns : m.ns.isSome = true
  name : m.name.isSome = true
  addressable : m.key.Addressable

/-- What is asked of a call: its object has a key that can be addressed, an intent is the one that
is stored, but for its status, and what is written fits the cluster. -/
def StoreRequest.Fits (m : Memory) : StoreRequest → Prop
  | .getIntent k => k.Addressable
  | .updateStatus i => i.metadata.Filed ∧
    (∃ stored, m.intents.find? i.metadata.key = some stored ∧
      i = { stored with status := i.status } ∧
      ∀ s ∈ i.status, s.conditions = [] → stored.statusOrEmpty.conditions = []) ∧
    ∀ s ∈ i.status, ∀ c ∈ s.conditions, c.lastTransitionTime.Recordable
  | .addFinalizer i _ => i.metadata.Filed ∧ m.intents.find? i.metadata.key = some i
  | .removeFinalizer i _ => i.metadata.Filed ∧ m.intents.find? i.metadata.key = some i
  | .getConfig k => k.Addressable
  | .listConfigs ns => IsSegment ns ∧ ns.utf8ByteSize ≤ ObjectKey.byteLimit
  | .applyAttachment a => a.metadata.Filed ∧ a.metadata.Fits
  | .applyClaim c => c.metadata.Filed ∧ c.metadata.Fits
  | .getPod k => k.Addressable
  | .createPod p => p.metadata.Filed ∧ p.Fits
  | .deletePod k => k.Addressable
  | .getSecret k => k.Addressable

/-- All calls of a run fit, each in the memory that those before it leave. -/
def Memory.Admits (m : Memory) : List StoreRequest → Prop
  | [] => True
  | r :: rest => r.Fits m ∧ (Memory.store.answer r m).2.Admits rest

/-! ## One call -/

theorem Action.answered_ok {σ α : Type} {a : Action σ StoreError α} {s s' : σ} {x : α}
    (h : a s = (.ok x, s')) (f : α → StoreAnswer) : a.answered f s = (f x, s') := by
  rw [answered, h]

theorem Action.answered_error {σ α : Type} {a : Action σ StoreError α} {s s' : σ} {e : StoreError}
    (h : a s = (.error e, s')) (f : α → StoreAnswer) : a.answered f s = (.failed, s') := by
  rw [answered, h]

/-- A request that succeeds is a part of a call that does. -/
theorem Action.mapError_ok {σ α ε φ : Type} {a : Action σ ε α} {s s' : σ} {x : α}
    (h : a s = (.ok x, s')) (f : ε → φ) : a.mapError f s = (.ok x, s') := by
  rw [run_mapError, h]
  rfl

theorem Action.mapError_error {σ α ε φ : Type} {a : Action σ ε α} {s s' : σ} {e : ε}
    (h : a s = (.error e, s')) (f : ε → φ) : a.mapError f s = (.error (f e), s') := by
  rw [run_mapError, h]
  rfl

theorem Action.of_mapError_ok {σ α ε φ : Type} {a : Action σ ε α} {f : ε → φ} {s s' : σ} {x : α}
    (h : a.mapError f s = (.ok x, s')) : a s = (.ok x, s') := by
  rw [run_mapError] at h
  generalize a s = r at h ⊢
  rcases r with ⟨_ | _, _⟩
  · cases h
  · cases h
    rfl

theorem Action.answered_update {σ : Type} {change : σ → σ} {s s' : σ} (h : change s = s') :
    (update change : Action σ StoreError Unit).answered (fun _ => .done) s = (.done, s') := by
  rw [← h]
  rfl

theorem Memory.answer_applyAttachment {a : NetworkAttachment} {m m' : Memory} {written : Bool}
    (h : applyAttachment a m = (written, m')) :
    store.answer (.applyAttachment a) m = (.written written, m') := by
  have hanswer : store.answer (.applyAttachment a) m =
    (.written (applyAttachment a m).1, (applyAttachment a m).2) := rfl
  rw [hanswer, h]

theorem Memory.answer_applyClaim {c : VolumeClaim} {m m' : Memory} {written : Bool}
    (h : applyClaim c m = (written, m')) :
    store.answer (.applyClaim c) m = (.written written, m') := by
  have hanswer : store.answer (.applyClaim c) m =
    (.written (applyClaim c m).1, (applyClaim c m).2) := rfl
  rw [hanswer, h]

theorem Metadata.Filed.key_eq {m : Metadata} (h : m.Filed) :
    m.ns = some m.key.ns ∧ m.name = some m.key.name := by
  obtain ⟨ns, hns⟩ := Option.isSome_iff_exists.1 h.ns
  obtain ⟨name, hname⟩ := Option.isSome_iff_exists.1 h.name
  simp [Metadata.key, Metadata.displayName, hns, hname]

theorem Metadata.Filed.keyOf_eq {σ : Type} {m : Metadata} (h : m.Filed) :
    (ClusterStore.keyOf m : Action σ StoreError ObjectKey) = pure m.key := by
  obtain ⟨hns, hname⟩ := h.key_eq
  rw [ClusterStore.keyOf, hns, hname]

/-- A finalizer that is there is not added again. -/
theorem Metadata.withFinalizer_of_contains {d : Metadata} {f : String}
    (h : d.finalizerList.contains f = true) : Memory.withFinalizer f d = d := by
  cases hd : d.finalizers with
  | none => simp [finalizerList, hd] at h
  | some l =>
    have hl : d.finalizerList = l := by rw [finalizerList, hd]; rfl
    simp only [Memory.withFinalizer, h, if_true]
    rw [hl, ← hd]

theorem Metadata.withFinalizer_of_not_contains {d : Metadata} {f : String}
    (h : ¬d.finalizerList.contains f = true) : Memory.withFinalizer f d =
      { d with finalizers := some (d.finalizerList ++ [f]) } := by
  simp only [Memory.withFinalizer, h, Bool.false_eq_true, if_false]

theorem Metadata.withoutFinalizer_of_contains {d : Metadata} {f : String}
    (h : d.finalizerList.contains f = true) : Memory.withoutFinalizer f d =
      { d with finalizers := some (d.finalizerList.filter (· != f)) } := by
  cases hd : d.finalizers with
  | none => simp [finalizerList, hd] at h
  | some l => simp [Memory.withoutFinalizer, finalizerList, hd]

/-- A finalizer that is not there is not taken away. -/
theorem Metadata.withoutFinalizer_of_not_contains {d : Metadata} {f : String}
    (h : ¬d.finalizerList.contains f = true) : Memory.withoutFinalizer f d = d := by
  cases hd : d.finalizers with
  | none => rw [Memory.withoutFinalizer, hd, Option.map_none, ← hd]
  | some l =>
    have hl : f ∉ l := by simpa [finalizerList, hd] using h
    have hfilter : l.filter (· != f) = l :=
      List.filter_eq_self.2 fun g hg => bne_iff_ne.2 fun hgf => hl (hgf ▸ hg)
    rw [Memory.withoutFinalizer, hd, Option.map_some, hfilter, ← hd]

/-- The same answer, and a memory that mirrors the cluster. -/
def Alike {σ : Type} (documents : σ → Documents) (x : StoreAnswer × σ)
    (y : StoreAnswer × Memory) : Prop :=
  x.1 = y.1 ∧ Mirrors (documents x.2) y.2

theorem Alike.of_eq {σ : Type} {documents : σ → Documents} {x : StoreAnswer × σ}
    {y : StoreAnswer × Memory} {a : StoreAnswer} {s : σ} {m : Memory} (hx : x = (a, s))
    (hy : y = (a, m)) (h : Mirrors (documents s) m) : Alike documents x y := by
  rw [hx, hy]
  exact ⟨rfl, h⟩

namespace Mirrors

variable {σ : Type} {t : Transport σ} {documents : σ → Documents} (hs : Serves t documents)
  {s : σ} {m : Memory} (h : Mirrors (documents s) m)
include hs h

/-- Asking for an object changes nothing. -/
theorem find {α : Type} {kind : ResourceKind} (hkind : kind ∈ ResourceKind.served)
    {key : ObjectKey} (hkey : key.Addressable) {read : Json → Option α} {table : Dict ObjectKey α}
    (hmatches : Dict.Matches (fun d x => read d.json = some x) (documents s kind) table)
    (f : Option α → StoreAnswer) :
    Alike documents
      (((ClusterStore.find t kind read key).mapError .cluster : Action σ StoreError _).answered f s)
      (f (table.find? key), m) := by
  obtain ⟨s', hfind, hdocuments⟩ := hs.find hkind hkey (hmatches key)
  exact .of_eq (Action.answered_ok (Action.mapError_ok hfind _) _) rfl (by rwa [hdocuments])

theorem listConfigs {ns : String} (hns : IsSegment ns)
    (hlength : ns.utf8ByteSize ≤ ObjectKey.byteLimit) :
    Alike documents ((ClusterStore.store t).answer (.listConfigs ns) s)
      (Memory.store.answer (.listConfigs ns) m) := by
  have hread : (((documents s).listed .nodeConfig ns).map Document.json).mapM NodeConfig.ofJson? =
      some (Memory.listConfigs ns m) := mapM_listed NodeConfig.ofJson? h.configs.entries_eq ns
  obtain ⟨s', hlist, hdocuments⟩ := hs.listIn (by decide) hns hlength hread
  exact .of_eq (Action.answered_ok (Action.mapError_ok hlist _) _) rfl (by rwa [hdocuments])

/-! Intents. -/

theorem updateStatus {i : NodeIntent} (hfits : (StoreRequest.updateStatus i).Fits m) :
    Alike documents ((ClusterStore.store t).answer (.updateStatus i) s)
      (Memory.store.answer (.updateStatus i) m) := by
  obtain ⟨hfiled, ⟨stored, hstored, hi, hempty⟩, htimes⟩ := hfits
  obtain ⟨d, hfound, hread⟩ := h.intents.exists_left hstored
  have hplain : (Json.orNull (i.status.map NodeIntentStatus.toJson)).Plain := by
    cases hstatus : i.status with
    | none => trivial
    | some status => exact (NodeIntentStatus.survives (htimes status hstatus)).plain
  have hpatched := NodeIntent.ofJson?_statusPatch hread htimes hempty hplain
  obtain ⟨s', hmerge, hdocuments⟩ :=
    hs.mergeStatus (by decide) hfiled.addressable hfound hpatched
  have hrun : ClusterStore.updateStatus t i s = (.ok (), s') := by
    rw [ClusterStore.updateStatus, hfiled.keyOf_eq, pure_bind]
    exact Action.mapError_ok hmerge _
  have hmemory : Memory.updateStatus i m = { m with
      intents := m.intents.insert i.metadata.key { stored with status := i.status }
      statusWrites := m.statusWrites + 1 } := by
    rw [Memory.updateStatus, Dict.modify, hstored]
  refine .of_eq (Action.answered_ok hrun _) (Action.answered_update hmemory) ?_
  rw [hdocuments]
  have hguarded : ({ stored with status := i.status } : NodeIntent).metadata.isDeleted = true →
      ({ stored with status := i.status } : NodeIntent).metadata.finalizerList ≠ [] :=
    h.guarded _ stored hstored
  exact h.withIntents (h.intents.insert _ hpatched) (h.guarded_insert _ hguarded) _

/-- The finalizers of an intent are replaced, and the intent goes away if it is being deleted and
none is left. -/
theorem patchFinalizers {i : NodeIntent} (hfiled : i.metadata.Filed)
    (hstored : m.intents.find? i.metadata.key = some i) (l : List String) :
    ∃ s', ClusterStore.patchFinalizers t i l s = (.ok (), s') ∧
      Mirrors (documents s') { m with
        intents :=
          if i.metadata.isDeleted && l.isEmpty then m.intents.erase i.metadata.key
          else m.intents.insert i.metadata.key
            { i with metadata := { i.metadata with finalizers := some l } } } := by
  obtain ⟨d, hfound, hread⟩ := h.intents.exists_left hstored
  have hpatched := NodeIntent.ofJson?_finalizersPatch hread l
  obtain ⟨s', hmerge, hdocuments⟩ := hs.merge (by decide) hfiled.addressable hfound hpatched
  refine ⟨s', ?_, ?_⟩
  · rw [ClusterStore.patchFinalizers, hfiled.key_eq.1]
    exact Action.mapError_ok hmerge _
  · rw [hdocuments]
    simp only [NodeIntent.isReleased_finalizersPatch hread]
    refine h.withIntents ?_ ?_ _
    · split
      · exact h.intents.erase _
      · exact h.intents.insert _ hpatched
    · split
      · exact h.guarded_erase _
      · next hkept =>
        refine h.guarded_insert _ fun hdeleted hnone => hkept ?_
        have hl : l = [] := hnone
        have hdeleted : i.metadata.isDeleted = true := hdeleted
        simp [hl, hdeleted]

theorem addFinalizer {i : NodeIntent} {f : String}
    (hfits : (StoreRequest.addFinalizer i f).Fits m) :
    Alike documents ((ClusterStore.store t).answer (.addFinalizer i f) s)
      (Memory.store.answer (.addFinalizer i f) m) := by
  obtain ⟨hfiled, hstored⟩ := hfits
  have hmemory : Memory.addFinalizer i f m = { m with
      intents := m.intents.insert i.metadata.key
        { i with metadata := Memory.withFinalizer f i.metadata } } := by
    rw [Memory.addFinalizer, Dict.modify, hstored]
  by_cases hf : i.metadata.finalizerList.contains f = true
  · have hrun : ClusterStore.addFinalizer t i f s = (.ok (), s) := by
      rw [ClusterStore.addFinalizer]
      simp only [hf, if_true]
      rfl
    refine .of_eq (Action.answered_ok hrun _) (Action.answered_update hmemory) ?_
    rw [Metadata.withFinalizer_of_contains hf, Dict.insert_eq_self hstored]
    exact h
  · obtain ⟨s', hpatch, hmirrors⟩ :=
      patchFinalizers hs h hfiled hstored (i.metadata.finalizerList ++ [f])
    have hrun : ClusterStore.addFinalizer t i f s = (.ok (), s') := by
      rw [ClusterStore.addFinalizer]
      simp only [hf]
      exact hpatch
    refine .of_eq (Action.answered_ok hrun _) (Action.answered_update hmemory) ?_
    have hnonempty : (i.metadata.finalizerList ++ [f]).isEmpty = false := by simp
    rw [Metadata.withFinalizer_of_not_contains hf]
    simpa only [hnonempty, Bool.and_false, Bool.false_eq_true, if_false] using hmirrors

theorem removeFinalizer {i : NodeIntent} {f : String}
    (hfits : (StoreRequest.removeFinalizer i f).Fits m) :
    Alike documents ((ClusterStore.store t).answer (.removeFinalizer i f) s)
      (Memory.store.answer (.removeFinalizer i f) m) := by
  obtain ⟨hfiled, hstored⟩ := hfits
  have hmemory : Memory.removeFinalizer i f m = (.ok (), { m with
      intents :=
        if Memory.isReleased { i with metadata := Memory.withoutFinalizer f i.metadata } then
          m.intents.erase i.metadata.key
        else m.intents.insert i.metadata.key
          { i with metadata := Memory.withoutFinalizer f i.metadata } }) := by
    simp only [Memory.removeFinalizer, h.willing.2.1, hstored]
    split <;> rfl
  by_cases hf : i.metadata.finalizerList.contains f = true
  · obtain ⟨s', hpatch, hmirrors⟩ :=
      patchFinalizers hs h hfiled hstored (i.metadata.finalizerList.filter (· != f))
    have hrun : ClusterStore.removeFinalizer t i f s = (.ok (), s') := by
      rw [ClusterStore.removeFinalizer]
      simp only [hf, if_true]
      exact hpatch
    refine .of_eq (Action.answered_ok hrun _) (Action.answered_ok hmemory _) ?_
    rw [Metadata.withoutFinalizer_of_contains hf]
    exact hmirrors
  · have hrun : ClusterStore.removeFinalizer t i f s = (.ok (), s) := by
      rw [ClusterStore.removeFinalizer]
      simp only [hf]
      rfl
    have hkept : Memory.isReleased i = false := by
      by_contra hreleased
      simp only [Memory.isReleased, Bool.not_eq_false, Bool.and_eq_true, List.isEmpty_iff]
        at hreleased
      exact h.guarded _ i hstored hreleased.1 hreleased.2
    refine .of_eq (Action.answered_ok hrun _) (Action.answered_ok hmemory _) ?_
    rw [Metadata.withoutFinalizer_of_not_contains hf]
    simp only [hkept, Dict.insert_eq_self hstored]
    exact h

/-! Attachments and claims. -/

/-- An attachment that is found agrees with another as the one in memory does. -/
theorem find_attachment {key : ObjectKey} (hkey : key.Addressable) (a : NetworkAttachment) :
    ∃ found s', ClusterStore.find t .networkAttachment NetworkAttachment.ofJson? key s =
        (.ok found, s') ∧ documents s' = documents s ∧
      found.any (·.agrees a) = (m.attachments.find? key).any (·.agrees a) := by
  obtain ⟨found, hread, hagrees⟩ : ∃ found, Option.Rel
      (fun d b => NetworkAttachment.ofJson? (Document.json d) = some b)
      ((documents s .networkAttachment).find? key) found ∧
      found.any (·.agrees a) = (m.attachments.find? key).any (·.agrees a) := by
    have hk := h.attachments key
    generalize (documents s .networkAttachment).find? key = x at hk
    generalize m.attachments.find? key = y at hk
    cases hk with
    | none => exact ⟨none, .none, rfl⟩
    | some hsame =>
      obtain ⟨b, hread, hsame⟩ := hsame
      exact ⟨some b, .some hread, hsame.agrees_eq a⟩
  obtain ⟨s', hfind, hdocuments⟩ := hs.find (by decide) hkey hread
  exact ⟨found, s', hfind, hdocuments, hagrees⟩

theorem applyAttachment {a : NetworkAttachment}
    (hfits : (StoreRequest.applyAttachment a).Fits m) :
    Alike documents ((ClusterStore.store t).answer (.applyAttachment a) s)
      (Memory.store.answer (.applyAttachment a) m) := by
  obtain ⟨hfiled, hnumbers⟩ := hfits
  have hsurvives := NetworkAttachment.survives hnumbers
  obtain ⟨found, s₁, hfind, hfound, hagrees⟩ := find_attachment hs h hfiled.addressable a
  have hcall : ClusterStore.applyAttachment t a s =
      (if found.any (·.agrees a) then pure false
      else do
        (ClusterStore.apply t .networkAttachment NetworkAttachment.ofJson? a.metadata.key
          a.toJson).mapError .cluster
        pure true : Action σ StoreError Bool) s₁ := by
    rw [ClusterStore.applyAttachment, hfiled.keyOf_eq, pure_bind,
      Action.run_bind_ok (Action.mapError_ok hfind _)]
  have hmirrors : Mirrors (documents s₁) m := by rwa [hfound]
  by_cases hwritten : (m.attachments.find? a.metadata.key).any (·.agrees a) = true
  · have hrun : ClusterStore.applyAttachment t a s = (.ok false, s₁) := by
      rw [hcall, hagrees, if_pos hwritten]
      rfl
    have hmemory : Memory.applyAttachment a m = (false, m) := by
      simp only [Memory.applyAttachment, hwritten, if_true]
    exact .of_eq (Action.answered_ok hrun _) (Memory.answer_applyAttachment hmemory) hmirrors
  · obtain ⟨d, x, hd, hread, hsame⟩ := hmirrors.applied_attachment a hsurvives.plain hsurvives.reads
    obtain ⟨s', happly, hdocuments⟩ := hs.apply (by decide) hfiled.addressable
      (Document.key?_eq rfl hfiled.key_eq.1 hfiled.key_eq.2) hd hread
    have happly : ClusterStore.apply t .networkAttachment NetworkAttachment.ofJson? a.metadata.key
        a.toJson s₁ = (.ok (), s') := happly
    have hrun : ClusterStore.applyAttachment t a s = (.ok true, s') := by
      rw [hcall, hagrees, if_neg hwritten, Action.run_bind_ok (Action.mapError_ok happly _)]
      rfl
    have hmemory : Memory.applyAttachment a m = (true, { m with
        attachments := m.attachments.insert a.metadata.key a
        attachmentWrites := m.attachmentWrites + 1 }) := by
      simp only [Memory.applyAttachment, hwritten, Bool.false_eq_true, if_false]
    refine .of_eq (Action.answered_ok hrun _) (Memory.answer_applyAttachment hmemory) ?_
    rw [hdocuments]
    exact hmirrors.withAttachments (hmirrors.attachments.insert _ ⟨x, hread, hsame⟩) _

theorem applyClaim {c : VolumeClaim} (hfits : (StoreRequest.applyClaim c).Fits m) :
    Alike documents ((ClusterStore.store t).answer (.applyClaim c) s)
      (Memory.store.answer (.applyClaim c) m) := by
  obtain ⟨hfiled, hnumbers⟩ := hfits
  have hsurvives := VolumeClaim.survives hnumbers
  obtain ⟨s₁, hfind, hfound⟩ :=
    hs.find (by decide) hfiled.addressable (h.claims c.metadata.key)
  have hmirrors : Mirrors (documents s₁) m := by rwa [hfound]
  have hcall : ClusterStore.applyClaim t c s =
      (if m.claims.contains c.metadata.key then pure false
      else do
        (ClusterStore.create t .volumeClaim VolumeClaim.ofJson? c.metadata.key.ns
          c.toJson).mapError .cluster
        pure true : Action σ StoreError Bool) s₁ := by
    rw [ClusterStore.applyClaim, hfiled.keyOf_eq, pure_bind,
      Action.run_bind_ok (Action.mapError_ok hfind _)]
    rfl
  by_cases hthere : m.claims.contains c.metadata.key = true
  · have hrun : ClusterStore.applyClaim t c s = (.ok false, s₁) := by
      rw [hcall, if_pos hthere]
      rfl
    have hmemory : Memory.applyClaim c m = (false, m) := by
      simp only [Memory.applyClaim, hthere, if_true]
    exact .of_eq (Action.answered_ok hrun _) (Memory.answer_applyClaim hmemory) hmirrors
  · have hfree : (documents s₁ .volumeClaim).contains c.metadata.key = false := by
      rw [hmirrors.claims.contains]
      exact Bool.eq_false_iff.2 hthere
    have hkept := VolumeClaim.json_withoutStatus hsurvives.plain
    have hread : VolumeClaim.ofJson?
        (Document.withoutStatus (.of c.toJson hsurvives.plain)).json = some c := by
      rw [hkept]
      exact hsurvives.reads
    obtain ⟨s', hcreate, hdocuments⟩ := hs.create (by decide) hfiled.addressable
      (Document.key?_eq (VolumeClaim.valuesOf_metadata _) hfiled.key_eq.1 hfiled.key_eq.2) hfree
      hread
    have hcreate : ClusterStore.create t .volumeClaim VolumeClaim.ofJson? c.metadata.key.ns
        c.toJson s₁ = (.ok (), s') := hcreate
    have hrun : ClusterStore.applyClaim t c s = (.ok true, s') := by
      rw [hcall, if_neg hthere, Action.run_bind_ok (Action.mapError_ok hcreate _)]
      rfl
    have hmemory : Memory.applyClaim c m = (true, { m with
        claims := m.claims.insert c.metadata.key c
        claimWrites := m.claimWrites + 1 }) := by
      simp only [Memory.applyClaim, hthere, Bool.false_eq_true, if_false]
    refine .of_eq (Action.answered_ok hrun _) (Memory.answer_applyClaim hmemory) ?_
    rw [hdocuments]
    exact hmirrors.withClaims (hmirrors.claims.insert _ hread) _

/-! Pods. -/

theorem createPod {p : Pod} (hfits : (StoreRequest.createPod p).Fits m) :
    Alike documents ((ClusterStore.store t).answer (.createPod p) s)
      (Memory.store.answer (.createPod p) m) := by
  obtain ⟨hfiled, hnumbers⟩ := hfits
  have hplain := (Pod.survives hnumbers).plain
  have hkey : (Document.of p.toJson hplain).key? = some p.metadata.key :=
    Document.key?_eq (Pod.valuesOf_metadata _) hfiled.key_eq.1 hfiled.key_eq.2
  by_cases hthere : m.pods.contains p.metadata.key = true
  · have htaken : (documents s .pod).contains p.metadata.key = true := by
      rwa [h.pods.contains]
    obtain ⟨s', refusal, hcreate, -, hdocuments⟩ :=
      hs.create_taken (by decide) hfiled.addressable hkey htaken Pod.ofJson?
    have hrun : ClusterStore.createPod t p s = (.error (.cluster (.refused refusal)), s') := by
      rw [ClusterStore.createPod, hfiled.keyOf_eq, pure_bind, Action.run_mapError]
      erw [hcreate]
      rfl
    obtain ⟨e', hmemory⟩ : ∃ e', Memory.createPod p m = (.error e', m) :=
      ⟨_, by simp only [Memory.createPod, h.willing.1, hthere, if_true]; rfl⟩
    exact .of_eq (Action.answered_error hrun _) (Action.answered_error hmemory _)
      (by rwa [hdocuments])
  · have hfree : (documents s .pod).contains p.metadata.key = false := by
      rw [h.pods.contains]
      exact Bool.eq_false_iff.2 hthere
    have hread : Pod.ofJson? (Document.withoutStatus (.of p.toJson hplain)).json =
        some { p with status := none } := by
      rw [Pod.json_withoutStatus]
      have hbare : ({ p with status := none } : Pod).Fits :=
        ⟨hnumbers.metadata, hnumbers.spec, by simp⟩
      exact (Pod.survives hbare).reads
    obtain ⟨s', hcreate, hdocuments⟩ :=
      hs.create (by decide) hfiled.addressable hkey hfree hread
    have hrun : ClusterStore.createPod t p s = (.ok (), s') := by
      rw [ClusterStore.createPod, hfiled.keyOf_eq, pure_bind]
      exact Action.mapError_ok hcreate _
    have hmemory : Memory.createPod p m = (.ok (), { m with
        pods := m.pods.insert p.metadata.key { p with status := none }
        podCreates := m.podCreates + 1 }) := by
      simp only [Memory.createPod, h.willing.1, h.willing.2.2, hthere, Bool.false_eq_true,
        if_false]
    refine .of_eq (Action.answered_ok hrun _) (Action.answered_ok hmemory _) ?_
    rw [hdocuments]
    exact h.withPods (h.pods.insert _ hread) _ _

theorem deletePod {key : ObjectKey} (hkey : key.Addressable) :
    Alike documents ((ClusterStore.store t).answer (.deletePod key) s)
      (Memory.store.answer (.deletePod key) m) := by
  obtain ⟨s₁, hfind, hfound⟩ := hs.find (by decide) hkey (h.pods key)
  have hmirrors : Mirrors (documents s₁) m := by rwa [hfound]
  have hcall : ClusterStore.deletePod t key s =
      (if (m.pods.find? key).isSome then
        (ClusterStore.delete t .pod (ClusterStore.readDeleted Pod.ofJson?) key).mapError .cluster
      else pure () : Action σ StoreError Unit) s₁ := by
    rw [ClusterStore.deletePod, Action.run_bind_ok (Action.mapError_ok hfind _)]
  cases hpod : m.pods.find? key with
  | none =>
    have hrun : ClusterStore.deletePod t key s = (.ok (), s₁) := by
      rw [hcall, hpod]
      rfl
    have hmemory : Memory.deletePod key m = m := by
      rw [Memory.deletePod, Dict.contains, hpod]
      rfl
    exact .of_eq (Action.answered_ok hrun _) (Action.answered_update hmemory) hmirrors
  | some p =>
    obtain ⟨d, hd, -⟩ := hmirrors.pods.exists_left hpod
    obtain ⟨s', hdelete, hdocuments⟩ := hs.delete (by decide) hkey hd Pod.ofJson?
    have hrun : ClusterStore.deletePod t key s = (.ok (), s') := by
      rw [hcall, hpod]
      exact Action.mapError_ok hdelete _
    have hmemory : Memory.deletePod key m =
        { m with pods := m.pods.erase key, podDeletes := m.podDeletes + 1 } := by
      rw [Memory.deletePod, Dict.contains, hpod]
      rfl
    refine .of_eq (Action.answered_ok hrun _) (Action.answered_update hmemory) ?_
    rw [hdocuments]
    exact hmirrors.withPods (hmirrors.pods.erase _) _ _

/-- **A call has the same answer in memory**, and the memory mirrors the cluster again. -/
theorem answer {r : StoreRequest} (hr : r.Fits m) :
    Alike documents ((ClusterStore.store t).answer r s) (Memory.store.answer r m) := by
  cases r with
  | getIntent k => exact find hs h (by decide) hr h.intents .intent
  | updateStatus i => exact updateStatus hs h hr
  | addFinalizer i f => exact addFinalizer hs h hr
  | removeFinalizer i f => exact removeFinalizer hs h hr
  | getConfig k => exact find hs h (by decide) hr h.configs .config
  | listConfigs ns => exact listConfigs hs h hr.1 hr.2
  | applyAttachment a => exact applyAttachment hs h hr
  | applyClaim c => exact applyClaim hs h hr
  | getPod k => exact find hs h (by decide) hr h.pods .pod
  | createPod p => exact createPod hs h hr
  | deletePod k => exact deletePod hs h hr
  | getSecret k => exact find hs h (by decide) hr h.secrets .secret

end Mirrors

/-! ## Runs -/

/-- **A store in memory stands for that of a cluster.** If a memory mirrors a cluster that nobody
else is at work on, each call of a run that fits has the same answer by the memory as by the
cluster, or fails with it, and the memory mirrors the cluster in the end. -/
theorem stands_in {σ : Type} {t : Transport σ} {documents : σ → Documents}
    (hs : Serves t documents) {s : σ} {m : Memory} (h : Mirrors (documents s) m)
    {l : List StoreRequest} (hl : m.Admits l) :
    ((ClusterStore.store t).answers l s).1 = (Memory.store.answers l m).1 ∧
      Mirrors (documents ((ClusterStore.store t).answers l s).2) (Memory.store.answers l m).2 := by
  induction l generalizing s m with
  | nil => exact ⟨rfl, h⟩
  | cons r l ih =>
    obtain ⟨hanswer, hmirrors⟩ := Mirrors.answer hs h hl.1
    obtain ⟨hanswers, hmirrors'⟩ := ih hmirrors hl.2
    rw [Store.answers_cons, Store.answers_cons]
    exact ⟨by rw [hanswer, hanswers], hmirrors'⟩

namespace Sample

/-- The intent, that is being deleted and has a finalizer. -/
def condemned : NodeIntent :=
  { intent with metadata := { intent.metadata with
      finalizers := some [intentFinalizer]
      deletionTimestamp := some ⟨0, 0⟩ } }

def failing : NodeIntent :=
  { condemned with status := some ⟨[⟨.ready, .fails, .failed, "no pod", ⟨1, 500000000⟩⟩]⟩ }

def barePod : Pod where
  metadata := { name := some "leaf1", ns := some "fabric" }
  spec := none
  status := none

theorem fits_condemned : condemned.Fits where
  metadata := ⟨by simp [condemned, intent], fun t ht => by
    obtain rfl : (⟨0, 0⟩ : Instant) = t := by simpa [condemned] using ht
    exact ⟨⟨by decide, by decide, by decide⟩, rfl⟩⟩
  status := by simp [condemned, intent]

theorem fits_barePod : barePod.Fits :=
  ⟨⟨by simp [barePod], by simp [barePod]⟩, by simp [barePod], by simp [barePod]⟩

def cluster : Documents :=
  Documents.change .nodeIntent
    (·.insert key (.of condemned.toJson (NodeIntent.survives fits_condemned).plain)) fun _ => {}

def mirror : Memory := ({} : Memory).addIntent condemned

theorem mirrors : Mirrors cluster mirror := by
  have hsurvives := NodeIntent.survives fits_condemned
  have hread : NodeIntent.ofJson? (Document.of condemned.toJson hsurvives.plain).json =
    some condemned := hsurvives.reads
  have hguarded : condemned.metadata.isDeleted = true → condemned.metadata.finalizerList ≠ [] := by
    decide
  exact Mirrors.empty.withIntents (Mirrors.empty.intents.insert key hread)
    (Mirrors.empty.guarded_insert key hguarded) 0

theorem addressable : key.Addressable where
  ns := ⟨by decide, List.all_eq_true.1 (by decide), by decide⟩
  name := ⟨by decide, List.all_eq_true.1 (by decide), by decide⟩
  length := by decide

theorem filed {m : Metadata} (hns : m.ns = some "fabric") (hname : m.name = some "leaf1") :
    m.Filed := by
  have hkey : m.key = key := by simp [Metadata.key, Metadata.displayName, hns, hname, key]
  exact ⟨by simp [hns], by simp [hname], hkey ▸ addressable⟩

/-- The intent is told of a pod that cannot be created twice, and goes away with its finalizer. -/
def calls : List StoreRequest :=
  [.addFinalizer condemned intentFinalizer, .createPod barePod, .createPod barePod,
    .updateStatus failing, .deletePod key, .removeFinalizer failing intentFinalizer, .getIntent key]

theorem admits : mirror.Admits calls := by
  have hcondemned : condemned.metadata.Filed := filed rfl rfl
  have hpod : barePod.metadata.Filed := filed rfl rfl
  refine ⟨⟨hcondemned, rfl⟩, ⟨hpod, fits_barePod⟩, ⟨hpod, fits_barePod⟩,
    ⟨hcondemned, ⟨condemned, rfl, rfl, ?_⟩, ?_⟩, addressable, ⟨hcondemned, rfl⟩, addressable,
    trivial⟩
  · simp [failing]
  · have htime : (⟨1, 500000000⟩ : Instant).Recordable := ⟨by decide, by decide, by decide⟩
    simpa [failing] using htime

theorem answers_mirror : (Memory.store.answers calls mirror).1 =
    [.done, .done, .failed, .done, .done, .done, .intent none] := by decide

end Sample

/-- A run on a cluster, answered as by a memory. -/
theorem stands_in_sample :
    ((ClusterStore.store ApiServer.transport).answers Sample.calls Sample.cluster).1 =
      [.done, .done, .failed, .done, .done, .done, .intent none] ∧
    Mirrors ((ClusterStore.store ApiServer.transport).answers Sample.calls Sample.cluster).2
      (Memory.store.answers Sample.calls Sample.mirror).2 := by
  obtain ⟨hanswers, hmirrors⟩ := stands_in ApiServer.serves Sample.mirrors Sample.admits
  exact ⟨hanswers.trans Sample.answers_mirror, hmirrors⟩

namespace Sample

/-- The pod, deleted at some time in the first second. -/
def dyingPod (nanos : Nat) : Pod :=
  { barePod with metadata := { barePod.metadata with deletionTimestamp := some ⟨0, nanos⟩ } }

/-- The half of a second does not reach the cluster. -/
theorem toJson_dyingPod : (dyingPod 500000000).toJson = (dyingPod 0).toJson := by
  have htime : Instant.wholeText ⟨0, 500000000⟩ = Instant.wholeText ⟨0, 0⟩ := rfl
  simp only [Pod.toJson, Metadata.toJson, dyingPod, Option.map_some, htime]

theorem fits_dyingPod : (dyingPod 0).Fits where
  metadata := ⟨by simp [dyingPod, barePod], fun t ht => by
    obtain rfl : (⟨0, 0⟩ : Instant) = t := by simpa [dyingPod] using ht
    exact ⟨⟨by decide, by decide, by decide⟩, rfl⟩⟩
  spec := by simp [dyingPod, barePod]
  status := by simp [dyingPod, barePod]

/-- What a cluster answers of the pod. -/
theorem answers_dyingPod : ((ClusterStore.store ApiServer.transport).answers
    [.createPod (dyingPod 500000000), .getPod key] fun _ => {}).1 =
    [.done, .pod (some (dyingPod 0))] := by
  have hfiled (n : Nat) : (dyingPod n).metadata.Filed := filed rfl rfl
  have hkey : (dyingPod 500000000).metadata.key = (dyingPod 0).metadata.key := rfl
  have hcreate : ClusterStore.createPod ApiServer.transport (dyingPod 500000000) =
      ClusterStore.createPod ApiServer.transport (dyingPod 0) := by
    rw [ClusterStore.createPod, ClusterStore.createPod, toJson_dyingPod, (hfiled _).keyOf_eq,
      (hfiled _).keyOf_eq, hkey]
  have hsame : (ClusterStore.store ApiServer.transport).answer (.createPod (dyingPod 500000000)) =
      (ClusterStore.store ApiServer.transport).answer (.createPod (dyingPod 0)) :=
    congrArg (fun a => a.answered fun _ => .done) hcreate
  obtain ⟨hcreated, hmirrors⟩ :=
    Mirrors.createPod ApiServer.serves Mirrors.empty ⟨hfiled 0, fits_dyingPod⟩
  obtain ⟨hfound, -⟩ := Mirrors.answer ApiServer.serves hmirrors (r := .getPod key) addressable
  rw [Store.answers_cons, Store.answers_cons, hsame, hcreated, hfound]
  rfl

end Sample

/-- **Not everything can stand in.** Nothing has the empty name in memory, but a cluster cannot be
asked for it, and a cluster keeps the time of a deletion in whole seconds only. -/
theorem apart_unnamed_fractional :
    Serves ApiServer.transport (fun ds => ds) ∧ Mirrors (fun _ => {}) {} ∧
    ((ClusterStore.store ApiServer.transport).answer (.getPod ⟨"fabric", ""⟩) fun _ => {}).1 =
      .failed ∧
    (Memory.store.answer (.getPod ⟨"fabric", ""⟩) {}).1 = .pod none ∧
    ((ClusterStore.store ApiServer.transport).answers
      [.createPod (Sample.dyingPod 500000000), .getPod Sample.key] fun _ => {}).1 =
      [.done, .pod (some (Sample.dyingPod 0))] ∧
    (Memory.store.answers
      [.createPod (Sample.dyingPod 500000000), .getPod Sample.key] {}).1 =
      [.done, .pod (some (Sample.dyingPod 500000000))] :=
  ⟨ApiServer.serves, Mirrors.empty, rfl, rfl, Sample.answers_dyingPod, by decide⟩

end NodeDeploy
