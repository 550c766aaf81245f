import NodeDeploy.Proofs.ApiServer
import NodeDeploy.Proofs.StandIn

/-! # Requests between those of other clients

A store that deletes a pod or claims storage asks first whether the object is there, and then acts
on the answer. Between the two requests, other clients of the cluster create and delete pods and
claims of their own.

* `Transport.shared`: before each request, other clients have theirs handled.
* `Documents.Readable.after`: they leave pods and claims that can be read.
* `deletePod_shared` and `applyClaim_shared`: what comes of the two calls of the store.
* `acted_on_what_was_found`: a pod is deleted, or storage claimed, without an error, unless the pod
  went away, or the claim came, between the two requests.
* `missing_pod_and_taken_claim_refused`: then there is one.
-/

namespace NodeDeploy

/-! ## Other clients -/

namespace Documents

/-- The documents when some calls have been handled. -/
def after (ds : Documents) (calls : List ApiCall) : Documents :=
  calls.foldl (fun ds call => (call.run ds).2) ds

end Documents

/-- A document of a kind can be read, if it is to be a pod or a claim. -/
structure ResourceKind.Reads (kind : ResourceKind) (d : Document) : Prop where
  pod : kind = .pod → ∃ p, Pod.ofJson? d.json = some p
  claim : kind = .volumeClaim → ∃ c, VolumeClaim.ofJson? d.json = some c

def Documents.Readable (ds : Documents) : Prop :=
  ∀ kind key d, (ds kind).find? key = some d → kind.Reads d

theorem Documents.Readable.change {ds : Documents} (h : ds.Readable) {kind : ResourceKind}
    {f : Dict ObjectKey Document → Dict ObjectKey Document}
    (hf : ∀ key d, (f (ds kind)).find? key = some d → kind.Reads d) :
    (Documents.change kind f ds).Readable := by
  intro k key d hd
  by_cases hk : k = kind
  · subst hk
    rw [Documents.change_self] at hd
    exact hf key d hd
  · rw [Documents.change_ne hk] at hd
    exact h k key d hd

/-- What other clients ask for: pods and claims are created, which can be read, and deleted. -/
inductive ApiCall.Intrudes : ApiCall → Prop
  | create {kind : ResourceKind} {key : ObjectKey} {body : Document}
      (hkind : kind = .pod ∨ kind = .volumeClaim) (hkey : key.Addressable)
      (hbody : body.key? = some key) (hread : kind.Reads body.withoutStatus) :
      Intrudes (.create kind key body)
  | delete {kind : ResourceKind} {key : ObjectKey} (hkind : kind = .pod ∨ kind = .volumeClaim)
      (hkey : key.Addressable) : Intrudes (.delete kind key)

namespace ApiCall.Intrudes

variable {call : ApiCall} (h : call.Intrudes)
include h

theorem wellFormed : call.WellFormed := by
  have hserved {kind : ResourceKind} (hkind : kind = .pod ∨ kind = .volumeClaim) :
      kind ∈ ResourceKind.served := by
    rcases hkind with rfl | rfl <;> decide
  cases h with
  | create hkind hkey hbody hread => exact ⟨hserved hkind, hkey, hbody⟩
  | delete hkind hkey => exact ⟨hserved hkind, hkey⟩

/-- One call of another client leaves pods and claims that can be read. -/
theorem readable {ds : Documents} (hds : ds.Readable) : (call.run ds).2.Readable := by
  cases h with
  | @create kind key body _ _ _ hread =>
    rw [run]
    split
    · exact hds
    · refine hds.change fun k d hd => ?_
      rw [Dict.find?_insert] at hd
      split at hd
      · obtain rfl := Option.some.inj hd
        exact hread
      · exact hds kind k d hd
  | @delete kind key _ _ =>
    rw [run, onFound]
    split
    · refine hds.change fun k d hd => ?_
      rw [Dict.find?_erase] at hd
      split at hd
      · cases hd
      · exact hds kind k d hd
    · exact hds

end ApiCall.Intrudes

/-- **Other clients leave pods and claims that can be read.** -/
theorem Documents.Readable.after {ds : Documents} (hds : ds.Readable) {calls : List ApiCall}
    (h : ∀ call ∈ calls, call.Intrudes) : (ds.after calls).Readable := by
  induction calls generalizing ds with
  | nil => exact hds
  | cons call calls ih =>
    exact ih ((h call List.mem_cons_self).readable hds) fun c hc => h c (List.mem_cons_of_mem _ hc)

/-! ## A shared cluster -/

/-- A cluster, and what other clients will ask of it before each of the requests to come. -/
structure Shared (σ : Type) where
  server : σ
  others : List (List ApiCall)

section Transport

variable {σ : Type}

def Transport.afterCalls (t : Transport σ) (calls : List ApiCall) (s : σ) : σ :=
  calls.foldl (fun s call => (t call.request s).2) s

/-- Requests to a cluster that has other clients: theirs are handled first. -/
def Transport.shared (t : Transport σ) : Transport (Shared σ) := fun r b =>
  let (response, s) := t r (t.afterCalls (b.others.headD []) b.server)
  (response, ⟨s, b.others.tail⟩)

/-- What the calls of other clients do to the cluster is what they do to its documents. -/
theorem Serves.documents_afterCalls {t : Transport σ} {documents : σ → Documents}
    (hs : Serves t documents) {calls : List ApiCall} (h : ∀ call ∈ calls, call.Intrudes) (s : σ) :
    documents (t.afterCalls calls s) = (documents s).after calls := by
  induction calls generalizing s with
  | nil => rfl
  | cons call calls ih =>
    have hcall := hs.documents call (h call List.mem_cons_self).wellFormed s
    have hrest := ih (fun c hc => h c (List.mem_cons_of_mem _ hc)) (t call.request s).2
    rw [hcall] at hrest
    exact hrest

namespace ClusterStore

variable {α : Type} {t : Transport σ} {kind : ResourceKind} (hkind : kind ∈ ResourceKind.served)
  {key : ObjectKey} (hkey : key.Addressable) (calls : List ApiCall) (rest : List (List ApiCall))
  (s : σ)

/-- One request to a shared cluster is one to what other clients have left of it. -/
theorem exchange_shared (r : Request) (read : Json → Option α) :
    exchange t.shared r read ⟨s, calls :: rest⟩ =
      ((exchange t r read (t.afterCalls calls s)).1,
        ⟨(exchange t r read (t.afterCalls calls s)).2, rest⟩) := by
  simp only [exchange, Transport.shared, List.headD_cons, List.tail_cons]
  rcases t r (t.afterCalls calls s) with ⟨response, s'⟩
  dsimp only
  split
  · rfl
  · split <;> rfl

include hkind hkey

theorem find_shared (read : Json → Option α) :
    find t.shared kind read key ⟨s, calls :: rest⟩ =
      ((find t kind read key (t.afterCalls calls s)).1,
        ⟨(find t kind read key (t.afterCalls calls s)).2, rest⟩) := by
  simp only [find, named_eq hkey, address_eq (ResourceKind.read?_objectPath hkind hkey), pure_bind,
    exchange_shared]
  rcases exchange t (.get ⟨kind.objectPath key, []⟩) read (t.afterCalls calls s) with ⟨r, s'⟩
  cases r with
  | ok x => rfl
  | error e =>
    cases e with
    | refused refusal =>
      dsimp only
      split <;> rfl
    | _ => rfl

theorem delete_shared (read : Json → Option α) :
    delete t.shared kind read key ⟨s, calls :: rest⟩ =
      ((delete t kind read key (t.afterCalls calls s)).1,
        ⟨(delete t kind read key (t.afterCalls calls s)).2, rest⟩) := by
  have htarget := ResourceKind.read?_change hkind hkey (.inl rfl)
  rw [String.append_empty] at htarget
  simp only [delete, named_eq hkey, address_eq htarget, pure_bind]
  simp only [Action.run_bind, exchange_shared]
  rcases exchange t _ read (t.afterCalls calls s) with ⟨_ | _, s'⟩ <;> rfl

theorem create_shared (read : Json → Option α) (object : Json) :
    create t.shared kind read key.ns object ⟨s, calls :: rest⟩ =
      ((create t kind read key.ns object (t.afterCalls calls s)).1,
        ⟨(create t kind read key.ns object (t.afterCalls calls s)).2, rest⟩) := by
  simp only [create, address_eq (read?_list hkind hkey), pure_bind]
  simp only [Action.run_bind, exchange_shared]
  rcases exchange t _ read (t.afterCalls calls s) with ⟨_ | _, s'⟩ <;> rfl

end ClusterStore

end Transport

/-! ## Requests after those of others -/

def ClusterError.Refuses (reason : String) (e : ClusterError) : Prop :=
  ∃ refusal, e = .refused refusal ∧ refusal.reason = reason

namespace Serves

variable {σ α : Type} {t : Transport σ} {documents : σ → Documents} (hs : Serves t documents)
  {kind : ResourceKind} (hkind : kind ∈ ResourceKind.served) {key : ObjectKey}
  (hkey : key.Addressable) {calls : List ApiCall} (hcalls : ∀ call ∈ calls, call.Intrudes)
  (rest : List (List ApiCall)) {s : σ}
include hs hkind hkey hcalls

/-- An object is found if it is there when the others have had their turn. -/
theorem find_shared (hreadable : (documents s).Readable) {read : Json → Option α}
    (hread : ∀ d, kind.Reads d → ∃ x, read d.json = some x) :
    ∃ x s', ClusterStore.find t.shared kind read key ⟨s, calls :: rest⟩ = (.ok x, ⟨s', rest⟩) ∧
      x.isSome = ((documents s).after calls kind).contains key ∧
      documents s' = (documents s).after calls := by
  have hafter := hs.documents_afterCalls hcalls s
  have hfound : ∃ x, Option.Rel (fun d y => read d.json = some y)
      (((documents s).after calls kind).find? key) x ∧
      x.isSome = ((documents s).after calls kind).contains key := by
    rw [Dict.contains]
    cases hd : ((documents s).after calls kind).find? key with
    | none => exact ⟨none, .none, rfl⟩
    | some d =>
      obtain ⟨x, hx⟩ := hread d (hreadable.after hcalls kind key d hd)
      exact ⟨some x, .some hx, rfl⟩
  obtain ⟨x, hrel, hx⟩ := hfound
  rw [← hafter] at hrel
  obtain ⟨s', hfind, hdocuments⟩ := hs.find hkind hkey hrel
  refine ⟨x, s', ?_, hx, hdocuments.trans hafter⟩
  rw [ClusterStore.find_shared hkind hkey, hfind]

/-- An object is deleted if it is there when the others have had their turn. -/
theorem delete_shared (read : Json → Option α) :
    ∃ r s', ClusterStore.delete t.shared kind (ClusterStore.readDeleted read) key
        ⟨s, calls :: rest⟩ = (r, ⟨s', rest⟩) ∧
      (r = .ok () ↔ ((documents s).after calls kind).contains key = true) ∧
      (∀ e, r = .error e → e.Refuses "NotFound") ∧
      (documents s' kind).contains key = false := by
  have hafter := hs.documents_afterCalls hcalls s
  rw [ClusterStore.delete_shared hkind hkey, Dict.contains]
  cases hd : ((documents s).after calls kind).find? key with
  | none =>
    rw [← hafter] at hd
    obtain ⟨s', refusal, hdelete, hreason, hdocuments⟩ := hs.delete_missing hkind hkey hd read
    rw [hdelete]
    refine ⟨_, s', rfl, by simp, ?_, ?_⟩
    · rintro e ⟨⟩
      exact ⟨refusal, rfl, hreason⟩
    · rw [hdocuments, Dict.contains, hd]
      rfl
  | some d =>
    rw [← hafter] at hd
    obtain ⟨s', hdelete, hdocuments⟩ := hs.delete hkind hkey hd read
    rw [hdelete]
    refine ⟨_, s', rfl, by simp, by simp, ?_⟩
    rw [hdocuments, Documents.change_self, Dict.contains, Dict.find?_erase_self]
    rfl

/-- An object is created if there is none when the others have had their turn. -/
theorem create_shared {body : Document} (hbody : body.key? = some key) {x : α}
    {read : Json → Option α} (hread : read body.withoutStatus.json = some x) :
    ∃ r s', ClusterStore.create t.shared kind read key.ns body.json ⟨s, calls :: rest⟩ =
        (r, ⟨s', rest⟩) ∧
      (r = .ok () ↔ ((documents s).after calls kind).contains key = false) ∧
      (∀ e, r = .error e → e.Refuses "AlreadyExists") ∧
      (documents s' kind).contains key = true := by
  have hafter := hs.documents_afterCalls hcalls s
  rw [ClusterStore.create_shared hkind hkey]
  cases hthere : ((documents s).after calls kind).contains key with
  | true =>
    rw [← hafter] at hthere
    obtain ⟨s', refusal, hcreate, hreason, hdocuments⟩ :=
      hs.create_taken hkind hkey hbody hthere read
    rw [hcreate]
    refine ⟨_, s', rfl, by simp, ?_, by rw [hdocuments, hthere]⟩
    rintro e ⟨⟩
    exact ⟨refusal, rfl, hreason⟩
  | false =>
    rw [← hafter] at hthere
    obtain ⟨s', hcreate, hdocuments⟩ := hs.create hkind hkey hbody hthere hread
    rw [hcreate]
    refine ⟨_, s', rfl, by simp, by simp, ?_⟩
    rw [hdocuments, Documents.change_self, Dict.contains, Dict.find?_insert_self]
    rfl

end Serves

/-! ## The calls of the store -/

/-- What comes of deleting a pod, by the documents when it is looked for and when it is deleted. -/
structure PodDeleted (key : ObjectKey) (asked acted left : Documents)
    (r : Except StoreError Unit) : Prop where
  /-- There is an error only if the pod is there when it is looked for and not when it is to be
  deleted. -/
  ok_iff : r = .ok () ↔ (asked .pod).contains key = false ∨ (acted .pod).contains key = true
  refused : ∀ e, r = .error e → ∃ reason, e = .cluster reason ∧ reason.Refuses "NotFound"
  gone : (left .pod).contains key = false

/-- What comes of claiming storage, by the documents when the claim is looked for and when it is
created. -/
structure ClaimApplied (key : ObjectKey) (asked acted left : Documents)
    (r : Except StoreError Bool) : Prop where
  /-- There is an error only if there is no claim when it is looked for, and one when it is to be
  created. -/
  ok_iff : (∃ created, r = .ok created) ↔
    (asked .volumeClaim).contains key = true ∨ (acted .volumeClaim).contains key = false
  created : ∀ created, r = .ok created → created = !(asked .volumeClaim).contains key
  refused : ∀ e, r = .error e → ∃ reason, e = .cluster reason ∧ reason.Refuses "AlreadyExists"
  there : (left .volumeClaim).contains key = true

section Calls

variable {σ : Type} {t : Transport σ} {documents : σ → Documents} (hs : Serves t documents)
  {s : σ} (hreadable : (documents s).Readable) {before between : List ApiCall}
  (hbefore : ∀ call ∈ before, call.Intrudes) (hbetween : ∀ call ∈ between, call.Intrudes)
  (rest : List (List ApiCall))
include hs hreadable hbefore hbetween

/-- A pod is deleted, without an error unless it goes away before it is. -/
theorem deletePod_shared {key : ObjectKey} (hkey : key.Addressable) :
    ∃ r b, ClusterStore.deletePod t.shared key ⟨s, before :: between :: rest⟩ = (r, b) ∧
      PodDeleted key ((documents s).after before) (((documents s).after before).after between)
        (documents b.server) r := by
  have hserved : ResourceKind.pod ∈ ResourceKind.served := by decide
  have hread : ∀ d, ResourceKind.pod.Reads d → ∃ p, Pod.ofJson? d.json = some p :=
    fun _ h => h.pod rfl
  obtain ⟨x, s₁, hfind, hx, hdocuments⟩ :=
    hs.find_shared hserved hkey hbefore (between :: rest) hreadable hread
  have hcall : ClusterStore.deletePod t.shared key ⟨s, before :: between :: rest⟩ =
      (if x.isSome then
        (ClusterStore.delete t.shared .pod (ClusterStore.readDeleted Pod.ofJson?) key).mapError
          .cluster
      else pure () : Action (Shared σ) StoreError Unit) ⟨s₁, between :: rest⟩ := by
    rw [ClusterStore.deletePod, Action.run_bind_ok (Action.mapError_ok hfind _)]
  rw [hcall, hx]
  cases hthere : ((documents s).after before .pod).contains key with
  | false =>
    exact ⟨.ok (), ⟨s₁, between :: rest⟩, rfl,
      ⟨by simp [hthere], by simp, by rw [hdocuments, hthere]⟩⟩
  | true =>
    obtain ⟨r, s₂, hdelete, hok, herror, hgone⟩ :=
      hs.delete_shared hserved hkey hbetween rest (s := s₁) Pod.ofJson?
    rw [hdocuments] at hok
    rw [if_pos rfl, Action.run_mapError, hdelete]
    cases r with
    | ok done => exact ⟨.ok (), ⟨s₂, rest⟩, rfl, ⟨by simp [hthere, ← hok], by simp, hgone⟩⟩
    | error e =>
      refine ⟨.error (.cluster e), ⟨s₂, rest⟩, rfl, ⟨by simp [hthere, ← hok], ?_, hgone⟩⟩
      rintro _ ⟨⟩
      exact ⟨e, rfl, herror e rfl⟩

/-- There is a claim in the end, without an error unless another comes before it. -/
theorem applyClaim_shared {c : VolumeClaim} (hfiled : c.metadata.Filed) (hfits : c.metadata.Fits) :
    ∃ r b, ClusterStore.applyClaim t.shared c ⟨s, before :: between :: rest⟩ = (r, b) ∧
      ClaimApplied c.metadata.key ((documents s).after before)
        (((documents s).after before).after between) (documents b.server) r := by
  have hserved : ResourceKind.volumeClaim ∈ ResourceKind.served := by decide
  have hread : ∀ d, ResourceKind.volumeClaim.Reads d → ∃ c, VolumeClaim.ofJson? d.json = some c :=
    fun _ h => h.claim rfl
  obtain ⟨x, s₁, hfind, hx, hdocuments⟩ :=
    hs.find_shared hserved hfiled.addressable hbefore (between :: rest) hreadable hread
  have hcall : ClusterStore.applyClaim t.shared c ⟨s, before :: between :: rest⟩ =
      (if x.isSome then pure false
      else do
        (ClusterStore.create t.shared .volumeClaim VolumeClaim.ofJson? c.metadata.key.ns
          c.toJson).mapError .cluster
        pure true : Action (Shared σ) StoreError Bool) ⟨s₁, between :: rest⟩ := by
    rw [ClusterStore.applyClaim, hfiled.keyOf_eq, pure_bind,
      Action.run_bind_ok (Action.mapError_ok hfind _)]
  rw [hcall, hx]
  cases hthere : ((documents s).after before .volumeClaim).contains c.metadata.key with
  | true =>
    exact ⟨.ok false, ⟨s₁, between :: rest⟩, rfl,
      ⟨by simp [hthere], by simp [hthere], by simp, by rw [hdocuments, hthere]⟩⟩
  | false =>
    have hsurvives := VolumeClaim.survives hfits
    have hcreated : VolumeClaim.ofJson?
        (Document.withoutStatus (.of c.toJson hsurvives.plain)).json = some c := by
      rw [VolumeClaim.json_withoutStatus hsurvives.plain]
      exact hsurvives.reads
    obtain ⟨r, s₂, hcreate, hok, herror, hthere'⟩ :=
      hs.create_shared hserved hfiled.addressable hbetween rest (s := s₁)
        (Document.key?_eq (VolumeClaim.valuesOf_metadata _) hfiled.key_eq.1 hfiled.key_eq.2)
        hcreated
    have hcreate : ClusterStore.create t.shared .volumeClaim VolumeClaim.ofJson?
      c.metadata.key.ns c.toJson ⟨s₁, between :: rest⟩ = (r, ⟨s₂, rest⟩) := hcreate
    rw [hdocuments] at hok
    rw [if_neg Bool.false_ne_true]
    cases r with
    | ok done =>
      rw [Action.run_bind_ok (Action.mapError_ok hcreate _)]
      exact ⟨.ok true, ⟨s₂, rest⟩, rfl,
        ⟨by simp [hthere, ← hok], by simp [hthere], by simp, hthere'⟩⟩
    | error e =>
      rw [Action.run_bind_error (Action.mapError_error hcreate _)]
      refine ⟨.error (.cluster e), ⟨s₂, rest⟩, rfl,
        ⟨by simp [hthere, ← hok], by simp, ?_, hthere'⟩⟩
      rintro _ ⟨⟩
      exact ⟨e, rfl, herror e rfl⟩

/-- **What was found is acted on.** Between two requests of a store, other clients create and delete
pods and claims. A pod is deleted without an error unless it was found and has gone away, and
storage is claimed without an error unless no claim was found and one has come. -/
theorem acted_on_what_was_found :
    (∀ key : ObjectKey, key.Addressable → ∃ r b,
      (ClusterStore.store t.shared).deletePod key ⟨s, before :: between :: rest⟩ = (r, b) ∧
      PodDeleted key ((documents s).after before) (((documents s).after before).after between)
        (documents b.server) r) ∧
    ∀ c : VolumeClaim, c.metadata.Filed → c.metadata.Fits → ∃ r b,
      (ClusterStore.store t.shared).applyClaim c ⟨s, before :: between :: rest⟩ = (r, b) ∧
      ClaimApplied c.metadata.key ((documents s).after before)
        (((documents s).after before).after between) (documents b.server) r :=
  ⟨fun _ hkey => deletePod_shared hs hreadable hbefore hbetween rest hkey,
    fun _ hfiled hfits => applyClaim_shared hs hreadable hbefore hbetween rest hfiled hfits⟩

end Calls

namespace Sample

def bareClaim : VolumeClaim where
  metadata := { name := some "leaf1", ns := some "fabric" }

theorem fits_bareClaim : bareClaim.metadata.Fits :=
  ⟨by simp [bareClaim], by simp [bareClaim]⟩

def podCreated : ApiCall := .create .pod key (.of barePod.toJson (Pod.survives fits_barePod).plain)

def claimCreated : ApiCall :=
  .create .volumeClaim key (.of bareClaim.toJson (VolumeClaim.survives fits_bareClaim).plain)

theorem podCreated_intrudes : podCreated.Intrudes := by
  have hplain := (Pod.survives fits_barePod).plain
  have hkey : (Document.of barePod.toJson hplain).key? = some key :=
    Document.key?_eq (Pod.valuesOf_metadata _) rfl rfl
  refine .create (.inl rfl) addressable hkey ⟨fun _ => ⟨barePod, ?_⟩,
    fun h => absurd h (by decide)⟩
  rw [Pod.json_withoutStatus]
  exact (Pod.survives fits_barePod).reads

theorem claimCreated_intrudes : claimCreated.Intrudes := by
  have hsurvives := VolumeClaim.survives fits_bareClaim
  have hkey : (Document.of bareClaim.toJson hsurvives.plain).key? = some key :=
    Document.key?_eq (VolumeClaim.valuesOf_metadata _) rfl rfl
  refine .create (.inr rfl) addressable hkey ⟨fun h => absurd h (by decide),
    fun _ => ⟨bareClaim, ?_⟩⟩
  rw [VolumeClaim.json_withoutStatus hsurvives.plain]
  exact hsurvives.reads

theorem readable_empty : Documents.Readable fun _ => {} := by
  intro kind key d hd
  cases hd

def others : List ApiCall := [podCreated, claimCreated]

theorem others_intrude : ∀ call ∈ others, call.Intrudes := by
  intro call hcall
  simp only [others, List.mem_cons, List.not_mem_nil, or_false] at hcall
  rcases hcall with rfl | rfl
  · exact podCreated_intrudes
  · exact claimCreated_intrudes

def swap : List ApiCall := [.delete .pod key, podCreated, .delete .volumeClaim key]

theorem swap_intrude : ∀ call ∈ swap, call.Intrudes := by
  intro call hcall
  simp only [swap, List.mem_cons, List.not_mem_nil, or_false] at hcall
  rcases hcall with rfl | rfl | rfl
  · exact .delete (.inl rfl) addressable
  · exact podCreated_intrudes
  · exact .delete (.inr rfl) addressable

theorem pod_after_swap :
    (((Documents.after (fun _ => {}) others).after swap) .pod).contains key = true := rfl

theorem claim_before_swap :
    ((Documents.after (fun _ => {}) others) .volumeClaim).contains key = true := rfl

end Sample

/-- A pod that is replaced, and a claim that goes away when it has been found. -/
theorem acted_on_what_was_found_sample :
    (∃ b, (ClusterStore.store ApiServer.transport.shared).deletePod Sample.key
      ⟨fun _ => {}, [Sample.others, Sample.swap]⟩ = (.ok (), b)) ∧
    ∃ b, (ClusterStore.store ApiServer.transport.shared).applyClaim Sample.bareClaim
      ⟨fun _ => {}, [Sample.others, Sample.swap]⟩ = (.ok false, b) := by
  obtain ⟨hdelete, happly⟩ := acted_on_what_was_found ApiServer.serves Sample.readable_empty
    Sample.others_intrude Sample.swap_intrude []
  obtain ⟨r, b, hdelete, hdeleted⟩ := hdelete Sample.key Sample.addressable
  obtain ⟨q, c, happly, happlied⟩ :=
    happly Sample.bareClaim (Sample.filed rfl rfl) Sample.fits_bareClaim
  obtain rfl := hdeleted.ok_iff.2 (.inr Sample.pod_after_swap)
  obtain ⟨created, rfl⟩ := happlied.ok_iff.2 (.inl Sample.claim_before_swap)
  obtain rfl := happlied.created created rfl
  exact ⟨⟨b, hdelete⟩, c, happly⟩

/-- **A missing pod and a claim that is there can be failures**: a pod that went away when it had
been found, and a claim that came when none had been. -/
theorem missing_pod_and_taken_claim_refused :
    (((Documents.after (fun _ => {}) [Sample.podCreated]).after
        [.delete .pod Sample.key]) .pod).contains Sample.key = false ∧
    (∃ e b, (ClusterStore.store ApiServer.transport.shared).deletePod Sample.key
      ⟨fun _ => {}, [[Sample.podCreated], [.delete .pod Sample.key]]⟩ = (.error e, b)) ∧
    (((Documents.after (fun _ => {}) []).after
        [Sample.claimCreated]) .volumeClaim).contains Sample.key = true ∧
    ∃ e b, (ClusterStore.store ApiServer.transport.shared).applyClaim Sample.bareClaim
      ⟨fun _ => {}, [[], [Sample.claimCreated]]⟩ = (.error e, b) := by
  refine ⟨rfl, ?_, rfl, ?_⟩
  · obtain ⟨r, b, hdelete, hdeleted⟩ := deletePod_shared ApiServer.serves Sample.readable_empty
      (List.forall_mem_singleton.2 Sample.podCreated_intrudes)
      (List.forall_mem_singleton.2 (.delete (.inl rfl) Sample.addressable)) [] Sample.addressable
    cases r with
    | error e => exact ⟨e, b, hdelete⟩
    | ok done => rcases hdeleted.ok_iff.1 rfl with h | h <;> cases h
  · obtain ⟨r, b, happly, happlied⟩ := applyClaim_shared (c := Sample.bareClaim) ApiServer.serves
      Sample.readable_empty (List.forall_mem_nil _)
      (List.forall_mem_singleton.2 Sample.claimCreated_intrudes) [] (Sample.filed rfl rfl)
      Sample.fits_bareClaim
    cases r with
    | error e => exact ⟨e, b, happly⟩
    | ok created => rcases happlied.ok_iff.1 ⟨created, rfl⟩ with h | h <;> cases h

end NodeDeploy
