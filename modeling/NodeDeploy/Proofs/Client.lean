import NodeDeploy.Proofs.Api
import NodeDeploy.Proofs.Records

/-! # The requests of the store of a cluster

Over a transport that serves, each request that the store of a cluster makes does to the documents
what its call does, and is understood when it is answered: an object that is asked for is found or
missing as its document is, and a change that is made is the change to its document.

* `Serves.exchange_document` and its siblings: one request, by the reply to it.
* `Serves.find`, `Serves.listIn`, `Serves.merge`, `Serves.mergeStatus`, `Serves.apply`,
  `Serves.create` and `Serves.delete`: the requests of the store.
-/

namespace NodeDeploy

namespace Reply

theorem readDeleted_doneJson {α : Type} (read : Json → Option α) :
    ClusterStore.readDeleted read doneJson = some () := rfl

/-- A list is read as its objects are. -/
theorem readItems_listJson {α : Type} {read : Json → Option α} (version : String)
    {l : List Document} {xs : List α} (h : (l.map Document.json).mapM read = some xs) :
    ClusterStore.readItems read (listJson version l) = some xs := by
  have hmetadata : ClusterStore.readListMetadata
      (.obj [("resourceVersion", .str version)]) = some () := rfl
  have hsound : ClusterStore.othersSound [("metadata", .obj [("resourceVersion", .str version)]),
      ("items", .arr (l.map Document.json))] = true := rfl
  refine Json.reads_bind (x := [_, _]) rfl <| Json.reads_bind (Json.guard_of hsound) <|
    Json.reads_bind (x := ()) ?_ <| Json.reads_bind (x := some xs) ?_ rfl
  all_goals
    simp [Json.valuesOf, Json.defaulted, Json.required, Json.readLast, Json.readNullable,
      Json.readList, hmetadata, h]

end Reply

namespace ClusterStore

variable {σ α : Type} {t : Transport σ} {r : Request} {s : σ}

theorem named_eq {key : ObjectKey} (h : key.Addressable) :
    (named key : Action σ ClusterError Unit) = pure () := by
  rw [named, if_neg]
  simpa using h.name.ne_empty

theorem address_eq {text : String} {target : Target} (h : Target.read? text = some target) :
    (address text : Action σ ClusterError Target) = pure target := by
  rw [address, h]

theorem read?_list {kind : ResourceKind} (hkind : kind ∈ ResourceKind.served) {key : ObjectKey}
    (hkey : key.Addressable) :
    Target.read? (kind.listPath key.ns ++ "?") = some ⟨kind.listPath key.ns, []⟩ :=
  ResourceKind.read?_listPath hkind hkey.ns
    (Nat.le_trans (Nat.le_add_right _ _) hkey.length)

theorem exchange_ok {j : Json} (h : (t r s).1.json = .ok j) {read : Json → Option α} {x : α}
    (hread : read j = some x) : exchange t r read s = (.ok x, (t r s).2) := by
  rcases hr : t r s with ⟨response, s'⟩
  rw [hr] at h
  simp [exchange, hr, h, hread]

theorem exchange_garbled {j : Json} (h : (t r s).1.json = .ok j) {read : Json → Option α}
    (hread : read j = none) : exchange t r read s = (.error .garbled, (t r s).2) := by
  rcases hr : t r s with ⟨response, s'⟩
  rw [hr] at h
  simp [exchange, hr, h, hread]

theorem exchange_error {e : ClusterError} (h : (t r s).1.json = .error e)
    (read : Json → Option α) : exchange t r read s = (.error e, (t r s).2) := by
  rcases hr : t r s with ⟨response, s'⟩
  rw [hr] at h
  simp [exchange, hr, h]

end ClusterStore

namespace Serves

variable {σ α : Type} {t : Transport σ} {documents : σ → Documents} (hs : Serves t documents)
include hs

/-! ## One request -/

section Exchange

variable {call : ApiCall} (hcall : call.WellFormed) {s : σ} {ds : Documents}
include hcall

theorem exchange_document {d : Document} (hrun : call.run (documents s) = (.document d, ds))
    {read : Json → Option α} {x : α} (hread : read d.json = some x) :
    ∃ s', ClusterStore.exchange t call.request read s = (.ok x, s') ∧ documents s' = ds := by
  have hreply := hs.reply call hcall s
  have hdocuments := hs.documents call hcall s
  rw [hrun] at hreply hdocuments
  exact ⟨_, ClusterStore.exchange_ok hreply hread, hdocuments⟩

theorem exchange_documents {l : List Document} (hrun : call.run (documents s) = (.documents l, ds))
    {read : Json → Option α} {xs : List α} (hread : (l.map Document.json).mapM read = some xs) :
    ∃ s', ClusterStore.exchange t call.request (ClusterStore.readItems read) s = (.ok xs, s') ∧
      documents s' = ds := by
  have hreply := hs.reply call hcall s
  have hdocuments := hs.documents call hcall s
  rw [hrun] at hreply hdocuments
  obtain ⟨version, hjson⟩ := hreply
  exact ⟨_, ClusterStore.exchange_ok hjson (Reply.readItems_listJson version hread), hdocuments⟩

theorem exchange_done (hrun : call.run (documents s) = (.done, ds)) (read : Json → Option α) :
    ∃ s', ClusterStore.exchange t call.request (ClusterStore.readDeleted read) s = (.ok (), s') ∧
      documents s' = ds := by
  have hreply := hs.reply call hcall s
  have hdocuments := hs.documents call hcall s
  rw [hrun] at hreply hdocuments
  exact ⟨_, ClusterStore.exchange_ok hreply (Reply.readDeleted_doneJson read), hdocuments⟩

theorem exchange_refused {reason : String} (hrun : call.run (documents s) = (.refused reason, ds))
    (read : Json → Option α) :
    ∃ s' refusal, ClusterStore.exchange t call.request read s = (.error (.refused refusal), s') ∧
      refusal.reason = reason ∧ documents s' = ds := by
  have hreply := hs.reply call hcall s
  have hdocuments := hs.documents call hcall s
  rw [hrun] at hreply hdocuments
  obtain ⟨refusal, hjson, hreason⟩ := hreply
  exact ⟨_, refusal, ClusterStore.exchange_error hjson read, hreason, hdocuments⟩

end Exchange

/-! ## The requests of the store -/

section Requests

variable {kind : ResourceKind} (hkind : kind ∈ ResourceKind.served) {key : ObjectKey}
  (hkey : key.Addressable) {s : σ}
include hkind hkey

/-- **An object is found as its document is read**, or is missing with it. -/
theorem find {read : Json → Option α} {x : Option α}
    (h : Option.Rel (fun d y => read d.json = some y) ((documents s kind).find? key) x) :
    ∃ s', ClusterStore.find t kind read key s = (.ok x, s') ∧ documents s' = documents s := by
  have hcall : (ApiCall.get kind key).WellFormed := ⟨hkind, hkey⟩
  simp only [ClusterStore.find, ClusterStore.named_eq hkey,
    ClusterStore.address_eq (ResourceKind.read?_objectPath hkind hkey), pure_bind]
  generalize hfound : (documents s kind).find? key = found at h
  cases h with
  | none =>
    have hrun : (ApiCall.get kind key).run (documents s) = (.refused "NotFound", documents s) := by
      rw [ApiCall.run, ApiCall.onFound, hfound]
    obtain ⟨s', refusal, hexchange, hreason, hdocuments⟩ := hs.exchange_refused hcall hrun read
    rw [ApiCall.request] at hexchange
    exact ⟨s', by rw [hexchange]; simp [hreason], hdocuments⟩
  | @some d y hread =>
    have hrun : (ApiCall.get kind key).run (documents s) = (.document d, documents s) := by
      rw [ApiCall.run, ApiCall.onFound, hfound]
    obtain ⟨s', hexchange, hdocuments⟩ := hs.exchange_document hcall hrun hread
    rw [ApiCall.request] at hexchange
    exact ⟨s', by rw [hexchange], hdocuments⟩

/-- What is found has been read off a document. -/
theorem document_of_find {read : Json → Option α} {x : α} {s' : σ}
    (h : ClusterStore.find t kind read key s = (.ok (some x), s')) :
    ∃ d, (documents s kind).find? key = some d ∧ read d.json = some x ∧
      documents s' = documents s := by
  cases hfound : (documents s kind).find? key with
  | none =>
    have hnone : Option.Rel (fun d y => read d.json = some y) ((documents s kind).find? key)
        none := by rw [hfound]; exact .none
    obtain ⟨s₁, hfind, -⟩ := hs.find hkind hkey hnone
    rw [hfind] at h
    cases h
  | some d =>
    cases hread : read d.json with
    | some y =>
      have hsome : Option.Rel (fun d y => read d.json = some y) ((documents s kind).find? key)
          (some y) := by rw [hfound]; exact .some hread
      obtain ⟨s₁, hfind, hdocuments⟩ := hs.find hkind hkey hsome
      rw [hfind] at h
      cases h
      exact ⟨d, rfl, hread, hdocuments⟩
    | none =>
      have hreply := hs.reply (.get kind key) ⟨hkind, hkey⟩ s
      rw [ApiCall.run, ApiCall.onFound, hfound] at hreply
      rw [ApiCall.request] at hreply
      have hexchange := ClusterStore.exchange_garbled hreply hread
      simp only [ClusterStore.find, ClusterStore.named_eq hkey,
        ClusterStore.address_eq (ResourceKind.read?_objectPath hkind hkey), pure_bind] at h
      rw [hexchange] at h
      cases h

/-- A patch of an object that is found is made, unless it makes the object go away. -/
theorem merge {d change : Document} (hfound : (documents s kind).find? key = some d)
    {read : Json → Option α} {x : α}
    (hread : read (d.merged change.withoutStatus).json = some x) :
    ∃ s', ClusterStore.merge t kind read key "" change.json s = (.ok (), s') ∧
      documents s' = (documents s).change kind fun table =>
        if (d.merged change.withoutStatus).isReleased then table.erase key
        else table.insert key (d.merged change.withoutStatus) := by
  have hcall : (ApiCall.merge kind key change).WellFormed := ⟨hkind, hkey⟩
  have hrun : (ApiCall.merge kind key change).run (documents s) =
      (.document (d.merged change.withoutStatus), (documents s).change kind fun table =>
        if (d.merged change.withoutStatus).isReleased then table.erase key
        else table.insert key (d.merged change.withoutStatus)) := by
    rw [ApiCall.run, ApiCall.onFound, hfound]
  obtain ⟨s', hexchange, hdocuments⟩ := hs.exchange_document hcall hrun hread
  have htarget := ResourceKind.read?_change hkind hkey (.inl rfl)
  rw [ApiCall.request] at hexchange
  rw [String.append_empty] at htarget
  refine ⟨s', ?_, hdocuments⟩
  simp only [ClusterStore.merge, ClusterStore.named_eq hkey, String.append_empty,
    ClusterStore.address_eq htarget, pure_bind]
  rw [Action.run_bind_ok hexchange]
  rfl

/-- A patch of an object that is missing is refused. -/
theorem merge_missing (hmissing : (documents s kind).find? key = none) (change : Document)
    (read : Json → Option α) :
    ∃ s' refusal, ClusterStore.merge t kind read key "" change.json s =
        (.error (.refused refusal), s') ∧
      refusal.reason = "NotFound" ∧ documents s' = documents s := by
  have hcall : (ApiCall.merge kind key change).WellFormed := ⟨hkind, hkey⟩
  have hrun : (ApiCall.merge kind key change).run (documents s) =
      (.refused "NotFound", documents s) := by
    rw [ApiCall.run, ApiCall.onFound, hmissing]
  obtain ⟨s', refusal, hexchange, hreason, hdocuments⟩ := hs.exchange_refused hcall hrun read
  have htarget := ResourceKind.read?_change hkind hkey (.inl rfl)
  rw [ApiCall.request] at hexchange
  rw [String.append_empty] at htarget
  refine ⟨s', refusal, ?_, hreason, hdocuments⟩
  simp only [ClusterStore.merge, ClusterStore.named_eq hkey, String.append_empty,
    ClusterStore.address_eq htarget, pure_bind]
  rw [Action.run_bind_error hexchange]

theorem mergeStatus {d change : Document} (hfound : (documents s kind).find? key = some d)
    {read : Json → Option α} {x : α} (hread : read (d.merged change.statusOnly).json = some x) :
    ∃ s', ClusterStore.merge t kind read key "/status" change.json s = (.ok (), s') ∧
      documents s' =
        (documents s).change kind (·.insert key (d.merged change.statusOnly)) := by
  have hcall : (ApiCall.mergeStatus kind key change).WellFormed := ⟨hkind, hkey⟩
  have hrun : (ApiCall.mergeStatus kind key change).run (documents s) =
      (.document (d.merged change.statusOnly),
        (documents s).change kind (·.insert key (d.merged change.statusOnly))) := by
    rw [ApiCall.run, ApiCall.onFound, hfound]
  obtain ⟨s', hexchange, hdocuments⟩ := hs.exchange_document hcall hrun hread
  rw [ApiCall.request] at hexchange
  refine ⟨s', ?_, hdocuments⟩
  simp only [ClusterStore.merge, ClusterStore.named_eq hkey,
    ClusterStore.address_eq (ResourceKind.read?_change hkind hkey (.inr rfl)), pure_bind]
  rw [Action.run_bind_ok hexchange]
  rfl

/-- What an object shall be is applied to the one that is there, or makes one. -/
theorem apply {body d : Document} (hbody : body.key? = some key)
    (hd : d = match (documents s kind).find? key with
      | some old => old.applied body
      | none => body.withoutStatus)
    {read : Json → Option α} {x : α} (hread : read d.json = some x) :
    ∃ s', ClusterStore.apply t kind read key body.json s = (.ok (), s') ∧
      documents s' = (documents s).change kind (·.insert key d) := by
  have hcall : (ApiCall.apply kind key body).WellFormed := ⟨hkind, hkey, hbody⟩
  have hrun : (ApiCall.apply kind key body).run (documents s) =
      (.document d, (documents s).change kind (·.insert key d)) := by
    subst hd
    rfl
  obtain ⟨s', hexchange, hdocuments⟩ := hs.exchange_document hcall hrun hread
  rw [ApiCall.request] at hexchange
  refine ⟨s', ?_, hdocuments⟩
  simp only [ClusterStore.apply, ClusterStore.named_eq hkey,
    ClusterStore.address_eq (ResourceKind.read?_applied hkind hkey), pure_bind]
  rw [Action.run_bind_ok hexchange]
  rfl

/-- An object is created where there is none. -/
theorem create {body : Document} (hbody : body.key? = some key)
    (hfree : (documents s kind).contains key = false) {read : Json → Option α} {x : α}
    (hread : read body.withoutStatus.json = some x) :
    ∃ s', ClusterStore.create t kind read key.ns body.json s = (.ok (), s') ∧
      documents s' = (documents s).change kind (·.insert key body.withoutStatus) := by
  have hcall : (ApiCall.create kind key body).WellFormed := ⟨hkind, hkey, hbody⟩
  have hrun : (ApiCall.create kind key body).run (documents s) = (.document body.withoutStatus,
      (documents s).change kind (·.insert key body.withoutStatus)) := by
    rw [ApiCall.run, hfree]
    rfl
  obtain ⟨s', hexchange, hdocuments⟩ := hs.exchange_document hcall hrun hread
  rw [ApiCall.request] at hexchange
  refine ⟨s', ?_, hdocuments⟩
  simp only [ClusterStore.create, ClusterStore.address_eq (ClusterStore.read?_list hkind hkey),
    pure_bind]
  rw [Action.run_bind_ok hexchange]
  rfl

/-- Where there is an object, none is created. -/
theorem create_taken {body : Document} (hbody : body.key? = some key)
    (htaken : (documents s kind).contains key = true) (read : Json → Option α) :
    ∃ s' refusal, ClusterStore.create t kind read key.ns body.json s =
        (.error (.refused refusal), s') ∧
      refusal.reason = "AlreadyExists" ∧ documents s' = documents s := by
  have hcall : (ApiCall.create kind key body).WellFormed := ⟨hkind, hkey, hbody⟩
  have hrun : (ApiCall.create kind key body).run (documents s) =
      (.refused "AlreadyExists", documents s) := by
    rw [ApiCall.run, htaken]
    rfl
  obtain ⟨s', refusal, hexchange, hreason, hdocuments⟩ := hs.exchange_refused hcall hrun read
  rw [ApiCall.request] at hexchange
  refine ⟨s', refusal, ?_, hreason, hdocuments⟩
  simp only [ClusterStore.create, ClusterStore.address_eq (ClusterStore.read?_list hkind hkey),
    pure_bind]
  rw [Action.run_bind_error hexchange]

theorem delete {d : Document} (hfound : (documents s kind).find? key = some d)
    (read : Json → Option α) :
    ∃ s', ClusterStore.delete t kind (ClusterStore.readDeleted read) key s = (.ok (), s') ∧
      documents s' = (documents s).change kind (·.erase key) := by
  have hcall : (ApiCall.delete kind key).WellFormed := ⟨hkind, hkey⟩
  have hrun : (ApiCall.delete kind key).run (documents s) =
      (.done, (documents s).change kind (·.erase key)) := by
    rw [ApiCall.run, ApiCall.onFound, hfound]
  obtain ⟨s', hexchange, hdocuments⟩ := hs.exchange_done hcall hrun read
  have htarget := ResourceKind.read?_change hkind hkey (.inl rfl)
  rw [ApiCall.request] at hexchange
  rw [String.append_empty] at htarget
  refine ⟨s', ?_, hdocuments⟩
  simp only [ClusterStore.delete, ClusterStore.named_eq hkey, ClusterStore.address_eq htarget,
    pure_bind]
  rw [Action.run_bind_ok hexchange]
  rfl

/-- Where there is no object, none is deleted. -/
theorem delete_missing (hmissing : (documents s kind).find? key = none) (read : Json → Option α) :
    ∃ s' refusal, ClusterStore.delete t kind (ClusterStore.readDeleted read) key s =
        (.error (.refused refusal), s') ∧
      refusal.reason = "NotFound" ∧ documents s' = documents s := by
  have hcall : (ApiCall.delete kind key).WellFormed := ⟨hkind, hkey⟩
  have hrun : (ApiCall.delete kind key).run (documents s) =
      (.refused "NotFound", documents s) := by
    rw [ApiCall.run, ApiCall.onFound, hmissing]
  obtain ⟨s', refusal, hexchange, hreason, hdocuments⟩ :=
    hs.exchange_refused hcall hrun (ClusterStore.readDeleted read)
  have htarget := ResourceKind.read?_change hkind hkey (.inl rfl)
  rw [ApiCall.request] at hexchange
  rw [String.append_empty] at htarget
  refine ⟨s', refusal, ?_, hreason, hdocuments⟩
  simp only [ClusterStore.delete, ClusterStore.named_eq hkey, ClusterStore.address_eq htarget,
    pure_bind]
  rw [Action.run_bind_error hexchange]

end Requests

/-- **The objects of a namespace are listed** as their documents are read. -/
theorem listIn {kind : ResourceKind} (hkind : kind ∈ ResourceKind.served) {ns : String}
    (hns : IsSegment ns) (hlength : ns.utf8ByteSize ≤ ObjectKey.byteLimit) {s : σ}
    {read : Json → Option α} {xs : List α}
    (hread : (((documents s).listed kind ns).map Document.json).mapM read = some xs) :
    ∃ s', ClusterStore.listIn t kind read ns s = (.ok xs, s') ∧ documents s' = documents s := by
  have hcall : (ApiCall.list kind ns).WellFormed := ⟨hkind, hns⟩
  have hrun : (ApiCall.list kind ns).run (documents s) =
      (.documents ((documents s).listed kind ns), documents s) := rfl
  obtain ⟨s', hexchange, hdocuments⟩ := hs.exchange_documents hcall hrun hread
  rw [ApiCall.request] at hexchange
  refine ⟨s', ?_, hdocuments⟩
  simp only [ClusterStore.listIn,
    ClusterStore.address_eq (ResourceKind.read?_listPath hkind hns hlength), pure_bind]
  exact hexchange

end Serves

end NodeDeploy
