import NodeDeploy.Proofs.Api
import NodeDeploy.Proofs.Codecs

/-! # Objects under changes

A change to the document of an object is read as a change to the object: a member that is set has
the value that was set, and every other member is read as before, whatever the document holds
besides.

* `Json.valuesOf_setMember_self` and its siblings: the values under a name after a change.
* `Metadata.ofJson?_replace`: metadata whose finalizers, labels or owners are replaced.
-/

namespace NodeDeploy

/-! ## Members -/

namespace Json

theorem valuesOf_append (name : String) (l m : List (String × Json)) :
    valuesOf name (l ++ m) = valuesOf name l ++ valuesOf name m := by
  induction l with
  | nil => rfl
  | cons e l ih =>
    obtain ⟨k, j⟩ := e
    simp only [List.cons_append, valuesOf, ih]
    split <;> rfl

theorem unset_cons (name k : String) (j : Json) (members : List (String × Json)) :
    unset name ((k, j) :: members) =
      if k = name then unset name members else (k, j) :: unset name members := by
  by_cases h : k = name <;> simp [unset, h]

@[simp] theorem valuesOf_unset_self (name : String) (members : List (String × Json)) :
    valuesOf name (unset name members) = [] := by
  induction members with
  | nil => rfl
  | cons m members ih =>
    rw [unset_cons]
    split
    · exact ih
    · next h => rw [valuesOf, if_neg h, ih]

theorem valuesOf_unset_ne {name k : String} (h : k ≠ name) (members : List (String × Json)) :
    valuesOf k (unset name members) = valuesOf k members := by
  induction members with
  | nil => rfl
  | cons m members ih =>
    rw [unset_cons, valuesOf]
    split
    · next hm => rw [if_neg fun hk => h (hk.symm.trans hm), ih]
    · rw [valuesOf, ih]

@[simp] theorem valuesOf_setMember_self (name : String) (j : Json)
    (members : List (String × Json)) : valuesOf name (setMember name j members) = [j] := by
  simp [setMember, valuesOf_append, valuesOf]

theorem valuesOf_setMember_ne {name k : String} (h : k ≠ name) (j : Json)
    (members : List (String × Json)) :
    valuesOf k (setMember name j members) = valuesOf k members := by
  simp [setMember, valuesOf_append, valuesOf, h.symm, valuesOf_unset_ne h]

/-- A change leaves no name in an object twice. -/
theorem length_valuesOf_setMember_le {k : String} {members : List (String × Json)}
    (h : (valuesOf k members).length ≤ 1) (name : String) (j : Json) :
    (valuesOf k (setMember name j members)).length ≤ 1 := by
  by_cases hk : k = name
  · rw [hk, valuesOf_setMember_self]
    exact Nat.le_refl 1
  · rwa [valuesOf_setMember_ne hk]

theorem length_valuesOf_unset_le {k : String} {members : List (String × Json)}
    (h : (valuesOf k members).length ≤ 1) (name : String) :
    (valuesOf k (unset name members)).length ≤ 1 := by
  by_cases hk : k = name
  · rw [hk, valuesOf_unset_self]
    exact Nat.zero_le 1
  · rwa [valuesOf_unset_ne hk]

theorem length_valuesOf_copyMember_le {k : String} {members : List (String × Json)}
    (h : (valuesOf k members).length ≤ 1) (name : String) (source : List (String × Json)) :
    (valuesOf k (copyMember name source members)).length ≤ 1 := by
  rw [copyMember]
  split
  · exact length_valuesOf_setMember_le h name _
  · exact length_valuesOf_unset_le h name

@[simp] theorem valuesOf_copyMember_self (name : String) (source members : List (String × Json)) :
    valuesOf name (copyMember name source members) = (lookup name source).toList := by
  rw [copyMember]
  split
  · next j hj => rw [valuesOf_setMember_self, hj]; rfl
  · next hj => rw [valuesOf_unset_self, hj]; rfl

theorem valuesOf_copyMember_ne {name k : String} (h : k ≠ name)
    (source members : List (String × Json)) :
    valuesOf k (copyMember name source members) = valuesOf k members := by
  rw [copyMember]
  split
  · exact valuesOf_setMember_ne h _ members
  · exact valuesOf_unset_ne h members

theorem lookup_of_valuesOf {name : String} {members : List (String × Json)} {j : Json}
    (h : valuesOf name members = [j]) : lookup name members = some j := by
  rw [lookup, h]
  rfl

/-- A member that must be there and is there at most once. -/
theorem required_eq_some_iff {α : Type} {read : Json → Option α} {name : String}
    {members : List (String × Json)} {x : α} (hone : (valuesOf name members).length ≤ 1) :
    required members name read = some x ↔
      ∃ j, valuesOf name members = [j] ∧ read j = some x := by
  match hvalues : valuesOf name members with
  | [] => simp [required, hvalues]
  | [j] =>
    simp only [required, hvalues, readLast, List.mapM_cons, List.mapM_nil]
    rcases hj : read j with _ | y <;> simp [hj]
  | j :: k :: l =>
    rw [hvalues] at hone
    simp at hone

theorem readRecord_obj {names : List String} {needed : Nat}
    {members others : List (String × Json)} :
    (Json.obj members).readRecord names needed = some others ↔
      (∀ name ∈ names, (valuesOf name members).length ≤ 1) ∧ members = others := by
  rw [readRecord]
  split
  · next h =>
    have hone : ∀ name ∈ names, (valuesOf name members).length ≤ 1 := by simpa using h
    exact ⟨fun heq => ⟨hone, Option.some.inj heq⟩, fun heq => congrArg some heq.2⟩
  · next h =>
    simp only [reduceCtorEq, false_iff, not_and]
    intro hone
    exact absurd (by simpa using hone) h

end Json

/-! ## Metadata -/

theorem Metadata.ofJson?_parts {members : List (String × Json)} {m : Metadata}
    (h : ofJson? (.obj members) = some m) :
    Json.optional members "finalizers" (Json.readList Json.readString) = some m.finalizers ∧
      Json.optional members "labels" (Json.readDict Json.readString) = some m.labels ∧
      Json.optional members "ownerReferences" (Json.readList OwnerReference.ofJson?) =
        some m.ownerReferences := by
  simp only [ofJson?, Json.readObject, Option.bind_eq_bind, Option.bind_some,
    Option.bind_eq_some_iff, Option.some.injEq] at h
  obtain ⟨_, -, _, -, _, -, _, -, _, hlabels, _, -, _, hfinalizers, _, howners, _, -, _, -, _, -,
    rfl⟩ := h
  exact ⟨hfinalizers, hlabels, howners⟩

/-- Metadata with other finalizers, labels and owners. -/
theorem Metadata.ofJson?_replace {members others : List (String × Json)} {m : Metadata}
    (h : ofJson? (.obj members) = some m)
    (hsame : ∀ name, name ≠ "finalizers" → name ≠ "labels" → name ≠ "ownerReferences" →
      Json.valuesOf name others = Json.valuesOf name members)
    {finalizers : Option (List String)} {labels : Option (Dict String String)}
    {owners : Option (List OwnerReference)}
    (hfinalizers : Json.optional others "finalizers" (Json.readList Json.readString) =
      some finalizers)
    (hlabels : Json.optional others "labels" (Json.readDict Json.readString) = some labels)
    (howners : Json.optional others "ownerReferences" (Json.readList OwnerReference.ofJson?) =
      some owners) :
    ofJson? (.obj others) =
      some { m with finalizers := finalizers, labels := labels, ownerReferences := owners } := by
  have hcongr : ∀ {α : Type} (name : String) (read : Json → Option α), name ≠ "finalizers" →
      name ≠ "labels" → name ≠ "ownerReferences" →
      Json.optional others name read = Json.optional members name read := fun name read h₁ h₂ h₃ =>
    Json.optional_congr (hsame name h₁ h₂ h₃)
  simp only [ofJson?, Json.readObject, Option.bind_eq_bind, Option.bind_some,
    Option.bind_eq_some_iff, Option.some.injEq] at h
  obtain ⟨name, hname, generateName, hgenerateName, ns, hns, uid, huid, oldLabels, -, annotations,
    hannotations, oldFinalizers, -, oldOwners, -, deletion, hdeletion, generation, hgeneration,
    version, hversion, rfl⟩ := h
  simp [ofJson?, Json.readObject, hcongr, hname, hgenerateName, hns, huid, hlabels, hannotations,
    hfinalizers, howners, hdeletion, hgeneration, hversion]

theorem Metadata.ofJson?_membersOf {j : Json} {m : Metadata} (h : ofJson? j = some m) :
    ofJson? (.obj j.membersOf) = some m := by
  cases j with
  | obj members => exact h
  | _ => cases h

/-- What makes a document that of an object: its metadata, and more. -/
theorem Document.metadata_eq {d : Document} {j : Json}
    (h : Json.valuesOf "metadata" d.members = [j]) : d.metadata = j.membersOf := by
  rw [Document.metadata, Json.lookup_of_valuesOf h]
  rfl

/-! ## Finalizers -/

def Document.finalizersPatch (l : List String) : Document :=
  ⟨[("metadata", .obj [("finalizers", .strings l)])], ⟨⟨Json.plain_strings l, trivial⟩, trivial⟩⟩

theorem Document.members_finalizersPatch (d : Document) (l : List String) :
    (d.merged (finalizersPatch l).withoutStatus).members =
      Json.setMember "metadata" (.obj (Json.setMember "finalizers" (.strings l) d.metadata))
        d.members := by
  simp [merged, withoutStatus, finalizersPatch, Json.unset, Json.mergedMembers, Json.isNull,
    Json.merged, Json.strings, metadata, Json.membersOf]

theorem NodeIntent.ofJson?_obj {members : List (String × Json)} {i : NodeIntent} :
    ofJson? (.obj members) = some i ↔
      (∀ name ∈ ["metadata", "spec", "status"], (Json.valuesOf name members).length ≤ 1) ∧
      Json.required members "metadata" Metadata.ofJson? = some i.metadata ∧
      Json.required members "spec" NodeIntentSpec.ofJson? = some i.spec ∧
      Json.optional members "status" NodeIntentStatus.ofJson? = some i.status := by
  obtain ⟨metadata, spec, status⟩ := i
  simp only [ofJson?, Option.bind_eq_bind, Option.bind_eq_some_iff, Json.readRecord_obj,
    Option.some.injEq, NodeIntent.mk.injEq]
  constructor
  · rintro ⟨_, ⟨hone, rfl⟩, _, hmetadata, _, hspec, _, hstatus, rfl, rfl, rfl⟩
    exact ⟨hone, hmetadata, hspec, hstatus⟩
  · rintro ⟨hone, hmetadata, hspec, hstatus⟩
    exact ⟨members, ⟨hone, rfl⟩, metadata, hmetadata, spec, hspec, status, hstatus, rfl, rfl, rfl⟩

namespace NodeIntent

variable {d : Document} {i : NodeIntent} (h : ofJson? d.json = some i)
include h

theorem ofJson?_metadata : Metadata.ofJson? (.obj d.metadata) = some i.metadata := by
  obtain ⟨hone, hmetadata, -, -⟩ := ofJson?_obj.1 h
  obtain ⟨j, hvalues, hread⟩ :=
    (Json.required_eq_some_iff (hone "metadata" (by simp))).1 hmetadata
  rw [Document.metadata_eq hvalues]
  exact Metadata.ofJson?_membersOf hread

/-- **A patch of the finalizers replaces them**, and nothing else. -/
theorem ofJson?_finalizersPatch (l : List String) :
    ofJson? (d.merged (.withoutStatus (.finalizersPatch l))).json =
      some { i with metadata := { i.metadata with finalizers := some l } } := by
  obtain ⟨hone, -, hspec, hstatus⟩ := ofJson?_obj.1 h
  have hmetadata : Metadata.ofJson?
      (.obj (Json.setMember "finalizers" (.strings l) d.metadata)) =
      some { i.metadata with finalizers := some l } := by
    refine Metadata.ofJson?_replace (ofJson?_metadata h) (fun name hname _ _ =>
      Json.valuesOf_setMember_ne hname _ _) ?_ ?_ ?_
    · rw [Json.optional_def, Json.valuesOf_setMember_self]
      exact Json.optionalOf_singleton (Json.survives_strings l)
    · rw [Json.optional_congr (Json.valuesOf_setMember_ne (by decide) _ _)]
      exact (Metadata.ofJson?_parts (ofJson?_metadata h)).2.1
    · rw [Json.optional_congr (Json.valuesOf_setMember_ne (by decide) _ _)]
      exact (Metadata.ofJson?_parts (ofJson?_metadata h)).2.2
  rw [Document.json, Document.members_finalizersPatch]
  refine ofJson?_obj.2 ⟨?_, ?_, ?_, ?_⟩
  · exact fun name hname => Json.length_valuesOf_setMember_le (hone name hname) _ _
  · simp [Json.required, Json.readLast, hmetadata]
  · rw [Json.required_congr (Json.valuesOf_setMember_ne (by decide) _ _)]
    exact hspec
  · rw [Json.optional_congr (Json.valuesOf_setMember_ne (by decide) _ _)]
    exact hstatus

/-- An intent under a patch of its finalizers goes away if it is being deleted and none is left. -/
theorem isReleased_finalizersPatch (l : List String) :
    (d.merged (.withoutStatus (.finalizersPatch l))).isReleased =
      (i.metadata.isDeleted && l.isEmpty) := by
  have hread := ofJson?_metadata (ofJson?_finalizersPatch h l)
  rw [Document.isReleased, hread]
  rfl

end NodeIntent

/-! ## The status -/

def Document.statusPatch (s : Json) (h : s.Plain) : Document := ⟨[("status", s)], ⟨h, trivial⟩⟩

theorem Document.members_statusPatch_null (d : Document) :
    (d.merged (statusPatch .null trivial).statusOnly).members = Json.unset "status" d.members := by
  simp [merged, statusOnly, statusPatch, Json.copyMember, Json.lookup, Json.valuesOf,
    Json.setMember, Json.unset, Json.mergedMembers, Json.isNull]

theorem Document.members_statusPatch (d : Document) {s : Json} (h : s.Plain)
    (hne : s.isNull = false) : (d.merged (statusPatch s h).statusOnly).members =
      Json.setMember "status"
        (Json.merged ((Json.lookup "status" d.members).getD .null) s) d.members := by
  simp [merged, statusOnly, statusPatch, Json.copyMember, Json.lookup, Json.valuesOf,
    Json.setMember, Json.unset, Json.mergedMembers, hne]

namespace NodeIntentStatus

/-- Conditions take the place of those that are there. -/
theorem ofJson?_merged {s : NodeIntentStatus} (hne : s.conditions ≠ [])
    (h : ∀ c ∈ s.conditions, c.lastTransitionTime.Recordable) (old : Json) :
    ofJson? (Json.merged old s.toJson) = some s := by
  have hconditions : Json.Survives (Json.readList Condition.ofJson?)
      (fun l => .arr (l.map Condition.toJson)) s.conditions :=
    Json.survives_list fun c hc => Condition.survives (h c hc)
  have hread := Json.readLast_singleton hconditions
  have hpresent : s.conditions.isEmpty = false := List.isEmpty_eq_false_iff.2 hne
  have hmembers : Json.merged old s.toJson = .obj (Json.setMember "conditions"
      (.arr (s.conditions.map Condition.toJson)) old.membersOf) := by
    simp [toJson, hpresent, Json.record_eq, Json.present, Json.merged, Json.mergedMembers,
      Json.isNull]
  have hone : (Json.obj (Json.setMember "conditions" (.arr (s.conditions.map Condition.toJson))
      old.membersOf)).readRecord ["conditions"] 0 = some _ :=
    Json.readRecord_obj.2 ⟨by simp, rfl⟩
  rw [hmembers, ofJson?, hone]
  simp [Json.defaulted, hread]

/-- An empty status takes nothing away. -/
theorem ofJson?_merged_empty {members : List (String × Json)} {s : Option NodeIntentStatus}
    (h : Json.optional members "status" ofJson? = some s)
    (hone : (Json.valuesOf "status" members).length ≤ 1)
    (hempty : (s.getD .empty).conditions = []) :
    ofJson? (Json.merged ((Json.lookup "status" members).getD .null) (toJson .empty)) =
      some .empty := by
  have hmerged : ∀ old : Json, Json.merged old (toJson .empty) = .obj old.membersOf := fun _ => rfl
  have hnone : ofJson? (.obj []) = some .empty := rfl
  rw [hmerged]
  match hvalues : Json.valuesOf "status" members with
  | [] =>
    rw [Json.lookup, hvalues]
    exact hnone
  | [j] =>
    rw [Json.lookup_of_valuesOf hvalues, Option.getD_some]
    cases j with
    | obj status =>
      rw [Json.optional_def, hvalues, Json.optionalOf_ne_null Json.noConfusion] at h
      obtain ⟨t, hread, rfl⟩ := Option.map_eq_some_iff.1 h
      obtain ⟨conditions⟩ := t
      rw [Json.membersOf, hread]
      exact congrArg (fun l => some (NodeIntentStatus.mk l)) hempty
    | _ => exact hnone
  | _ :: _ :: _ =>
    rw [hvalues] at hone
    simp at hone

end NodeIntentStatus

/-- **A patch of the status sets it**, if it has conditions or there were none. -/
theorem NodeIntent.ofJson?_statusPatch {d : Document} {i : NodeIntent}
    (h : ofJson? d.json = some i) {s : Option NodeIntentStatus}
    (htimes : ∀ t ∈ s, ∀ c ∈ t.conditions, c.lastTransitionTime.Recordable)
    (hempty : ∀ t ∈ s, t.conditions = [] → i.statusOrEmpty.conditions = [])
    (hplain : (Json.orNull (s.map NodeIntentStatus.toJson)).Plain) :
    ofJson? (d.merged (.statusOnly (.statusPatch _ hplain))).json =
      some { i with status := s } := by
  obtain ⟨hone, hmetadata, hspec, hstatus⟩ := ofJson?_obj.1 h
  cases s with
  | none =>
    have hmembers : (d.merged (.statusOnly (.statusPatch _ hplain))).members =
        Json.unset "status" d.members := Document.members_statusPatch_null d
    rw [Document.json, hmembers]
    refine ofJson?_obj.2 ⟨?_, ?_, ?_, ?_⟩
    · exact fun name hname => Json.length_valuesOf_unset_le (hone name hname) _
    · rwa [Json.required_congr (Json.valuesOf_unset_ne (by decide) _)]
    · rwa [Json.required_congr (Json.valuesOf_unset_ne (by decide) _)]
    · simp [Json.optional_def]
  | some s =>
    have hread : NodeIntentStatus.ofJson?
        (Json.merged ((Json.lookup "status" d.members).getD .null) s.toJson) = some s := by
      by_cases hs : s.conditions = []
      · obtain rfl : s = .empty := by
          obtain ⟨conditions⟩ := s
          exact congrArg NodeIntentStatus.mk hs
        exact NodeIntentStatus.ofJson?_merged_empty hstatus (hone "status" (by simp))
          (hempty _ rfl rfl)
      · exact NodeIntentStatus.ofJson?_merged hs (htimes s rfl) _
    have hmembers : (d.merged (.statusOnly (.statusPatch _ hplain))).members =
        Json.setMember "status"
          (Json.merged ((Json.lookup "status" d.members).getD .null) s.toJson) d.members :=
      Document.members_statusPatch d hplain rfl
    rw [Document.json, hmembers]
    refine ofJson?_obj.2 ⟨?_, ?_, ?_, ?_⟩
    · exact fun name hname => Json.length_valuesOf_setMember_le (hone name hname) _ _
    · rwa [Json.required_congr (Json.valuesOf_setMember_ne (by decide) _ _)]
    · rwa [Json.required_congr (Json.valuesOf_setMember_ne (by decide) _ _)]
    · rw [Json.optional_def, Json.valuesOf_setMember_self, Json.optionalOf_ne_null, hread]
      · rfl
      · exact Json.noConfusion

/-! ## Objects that are written -/

def Document.of (j : Json) (h : j.Plain) : Document := ⟨j.membersOf, Json.plain_membersOf h⟩

/-- A pod that is created is kept without the status that it was sent with. -/
theorem Pod.json_withoutStatus {p : Pod} (h : p.toJson.Plain) :
    (Document.withoutStatus (.of p.toJson h)).json = ({ p with status := none } : Pod).toJson := by
  obtain ⟨metadata, spec, status⟩ := p
  rcases spec with _ | spec <;> rcases status with _ | status <;> rfl

theorem VolumeClaim.json_withoutStatus {c : VolumeClaim} (h : c.toJson.Plain) :
    (Document.withoutStatus (.of c.toJson h)).json = c.toJson := by
  obtain ⟨metadata, spec⟩ := c
  rcases spec with _ | spec <;> rfl

theorem NetworkAttachment.json_withoutStatus {a : NetworkAttachment} (h : a.toJson.Plain) :
    (Document.withoutStatus (.of a.toJson h)).json = a.toJson := rfl

/-- An object gives itself the namespace and the name of its metadata. -/
theorem Document.key?_eq {d : Document} {m : Metadata}
    (h : Json.valuesOf "metadata" d.members = [m.toJson]) {key : ObjectKey}
    (hns : m.ns = some key.ns) (hname : m.name = some key.name) : d.key? = some key := by
  have hmembers : d.metadata = m.toJson.membersOf := Document.metadata_eq h
  simp [Document.key?, hmembers, Metadata.toJson, Json.record_eq, Json.membersOf, Json.lookup, hns,
    hname, Json.readString]

theorem Pod.valuesOf_metadata {p : Pod} (h : p.toJson.Plain) :
    Json.valuesOf "metadata" (Document.of p.toJson h).members = [p.metadata.toJson] := by
  obtain ⟨metadata, spec, status⟩ := p
  rcases spec with _ | spec <;> rcases status with _ | status <;> rfl

theorem VolumeClaim.valuesOf_metadata {c : VolumeClaim} (h : c.toJson.Plain) :
    Json.valuesOf "metadata" (Document.of c.toJson h).members = [c.metadata.toJson] := by
  obtain ⟨metadata, spec⟩ := c
  rcases spec with _ | spec <;> rfl

/-! ## Attachments -/

theorem NetworkAttachment.ofJson?_obj {members : List (String × Json)} {a : NetworkAttachment} :
    ofJson? (.obj members) = some a ↔
      (∀ name ∈ ["metadata", "spec"], (Json.valuesOf name members).length ≤ 1) ∧
      Json.required members "metadata" Metadata.ofJson? = some a.metadata ∧
      Json.required members "spec" configOfJson? = some a.config := by
  obtain ⟨metadata, config⟩ := a
  simp only [ofJson?, Option.bind_eq_bind, Option.bind_eq_some_iff, Json.readRecord_obj,
    Option.some.injEq, NetworkAttachment.mk.injEq]
  constructor
  · rintro ⟨_, ⟨hone, rfl⟩, _, hmetadata, _, hconfig, rfl, rfl⟩
    exact ⟨hone, hmetadata, hconfig⟩
  · rintro ⟨hone, hmetadata, hconfig⟩
    exact ⟨members, ⟨hone, rfl⟩, metadata, hmetadata, config, hconfig, rfl, rfl⟩

/-- **An attachment that is applied to another** gives it its configuration, labels and owners. -/
theorem NetworkAttachment.ofJson?_applied {d : Document} {a b : NetworkAttachment}
    (h : ofJson? d.json = some b) (hplain : a.toJson.Plain) :
    ofJson? (d.applied (.of a.toJson hplain)).json = some {
      metadata := { b.metadata with
        labels := a.metadata.labels
        ownerReferences := a.metadata.ownerReferences }
      config := a.config } := by
  obtain ⟨hone, hmetadata, -⟩ := ofJson?_obj.1 h
  obtain ⟨j, hvalues, hread⟩ :=
    (Json.required_eq_some_iff (hone "metadata" (by simp))).1 hmetadata
  have hold : Metadata.ofJson? (.obj d.metadata) = some b.metadata := by
    rw [Document.metadata_eq hvalues]
    exact Metadata.ofJson?_membersOf hread
  have hgiven : (Document.of a.toJson hplain).metadata = a.metadata.toJson.membersOf := rfl
  have hgetLast : ∀ x : Option Json, x.toList.getLast? = x := fun x => by cases x <;> rfl
  have hlabels : Json.lookup "labels" a.metadata.toJson.membersOf =
      a.metadata.labels.map Json.ofStrings := by
    simp [Metadata.toJson, Json.record_eq, Json.membersOf, Json.lookup, hgetLast]
  have howners : Json.lookup "ownerReferences" a.metadata.toJson.membersOf =
      a.metadata.ownerReferences.map fun l => .arr (l.map OwnerReference.toJson) := by
    simp [Metadata.toJson, Json.record_eq, Json.membersOf, Json.lookup, hgetLast]
  have hspec : Json.lookup "spec" (Document.of a.toJson hplain).members =
      some (.record [("config", some (.str a.config))]) := rfl
  have hnew : Metadata.ofJson? (.obj (Json.copyMember "labels" a.metadata.toJson.membersOf
      (Json.copyMember "ownerReferences" a.metadata.toJson.membersOf d.metadata))) =
      some { b.metadata with
        labels := a.metadata.labels
        ownerReferences := a.metadata.ownerReferences } := by
    refine Metadata.ofJson?_replace hold (fun name _ hl ho => ?_) ?_ ?_ ?_
    · rw [Json.valuesOf_copyMember_ne hl, Json.valuesOf_copyMember_ne ho]
    · rw [Json.optional_congr ((Json.valuesOf_copyMember_ne (by decide) _ _).trans
        (Json.valuesOf_copyMember_ne (by decide) _ _))]
      exact (Metadata.ofJson?_parts hold).1
    · rw [Json.optional_def, Json.valuesOf_copyMember_self, hlabels]
      exact Json.optionalOf_map fun d _ => Json.survives_ofStrings d
    · rw [Json.optional_def, Json.valuesOf_copyMember_ne (by decide),
        Json.valuesOf_copyMember_self, howners]
      exact Json.optionalOf_map fun l _ => Metadata.survives_owners l
  simp only [Document.json, Document.applied, hgiven]
  refine ofJson?_obj.2 ⟨?_, ?_, ?_⟩
  · exact fun name hname => Json.length_valuesOf_copyMember_le
      (Json.length_valuesOf_setMember_le (hone name hname) _ _) _ _
  · rw [Json.required_congr (Json.valuesOf_copyMember_ne (by decide) _ _)]
    simp [Json.required, Json.readLast, hnew]
  · have hconfig := Json.readLast_singleton (survives_config a.config)
    simp [Json.required, hspec, hconfig]

end NodeDeploy
