import NodeDeploy.Proofs.Patches
import NodeDeploy.Store.Memory

/-! # Memories that mirror a cluster

A memory mirrors a cluster if the objects in its tables are those that the documents of the cluster
are read as, under the same keys. Of an attachment, only what is applied is compared: what it wires,
its labels and its owners.

* `Dict.Matches`: two tables have the same keys, with values that are related.
* `Mirrors`: a memory has the objects of the documents of a cluster.
* `Mirrors.withIntents` and its siblings: it still does when the same is changed in both.
* `mapM_listed`: the objects of a namespace are read off its documents.
-/

namespace NodeDeploy

/-! ## Tables -/

namespace Dict

variable {κ α β : Type} [Key κ]

/-- Two dictionaries have the same keys, with values that are related. -/
def Matches (R : α → β → Prop) (d : Dict κ α) (e : Dict κ β) : Prop :=
  ∀ k, Option.Rel R (d.find? k) (e.find? k)

namespace Matches

variable {R : α → β → Prop} {d : Dict κ α} {e : Dict κ β}

theorem empty : Matches R ({} : Dict κ α) ({} : Dict κ β) := fun _ => .none

theorem exists_left (h : Matches R d e) {k : κ} {y : β} (hy : e.find? k = some y) :
    ∃ x, d.find? k = some x ∧ R x y := by
  have hk := h k
  rw [hy] at hk
  generalize d.find? k = o at hk
  cases hk with
  | some hxy => exact ⟨_, rfl, hxy⟩

theorem contains (h : Matches R d e) (k : κ) : d.contains k = e.contains k := by
  have hk := h k
  rw [Dict.contains, Dict.contains]
  generalize d.find? k = x at hk
  generalize e.find? k = y at hk
  cases hk <;> rfl

theorem insert [DecidableEq κ] (h : Matches R d e) (k : κ) {x : α} {y : β} (hxy : R x y) :
    Matches R (d.insert k x) (e.insert k y) := by
  intro j
  rw [find?_insert, find?_insert]
  split
  · exact .some hxy
  · exact h j

theorem erase [DecidableEq κ] (h : Matches R d e) (k : κ) :
    Matches R (d.erase k) (e.erase k) := by
  intro j
  rw [find?_erase, find?_erase]
  split
  · exact .none
  · exact h j

end Matches

/-- The entries of dictionaries that match by a reader, one by one. -/
theorem Matches.entries_eq {read : α → Option β} {d : Dict κ α} {e : Dict κ β}
    (h : Matches (fun x y => read x = some y) d e) :
    d.entries.map (fun a => (a.1, read a.2)) = e.entries.map fun b => (b.1, some b.2) := by
  have hvalues : d.mapValues (fun _ x => read x) = e.mapValues fun _ y => some y := by
    refine ext_find? fun k => ?_
    have hk := h k
    rw [find?_mapValues, find?_mapValues]
    generalize d.find? k = x at hk
    generalize e.find? k = y at hk
    cases hk with
    | none => rfl
    | some hxy => exact congrArg some hxy
  exact congrArg entries hvalues

section Change

variable {R : Document → β → Prop} {ds : Documents} {kind : ResourceKind}
  {f : Dict ObjectKey Document → Dict ObjectKey Document} {table : Dict ObjectKey β}

theorem Matches.changed (h : Matches R (f (ds kind)) table) :
    Matches R (ds.change kind f kind) table := by
  rwa [Documents.change_self]

/-- A change of one kind of documents does not touch the others. -/
theorem Matches.kept {k : ResourceKind} (h : Matches R (ds k) table) (hk : k ≠ kind) :
    Matches R (ds.change kind f k) table := by
  rwa [Documents.change_ne hk]

end Change

end Dict

/-- The objects of a namespace are read off its documents. -/
theorem mapM_listed {α : Type} (read : Json → Option α) {l : List (ObjectKey × Document)}
    {m : List (ObjectKey × α)}
    (h : l.map (fun a => (a.1, read a.2.json)) = m.map fun b => (b.1, some b.2)) (ns : String) :
    (((l.filter fun a => a.1.ns == ns).map (·.2)).map Document.json).mapM read =
      some ((m.filter fun b => b.1.ns == ns).map (·.2)) := by
  induction l generalizing m with
  | nil =>
    cases m with
    | nil => rfl
    | cons b m => cases h
  | cons a l ih =>
    cases m with
    | nil => cases h
    | cons b m =>
      obtain ⟨hab, hrest⟩ := List.cons.inj h
      obtain ⟨hkey, hread⟩ := Prod.mk.inj hab
      have ih := ih hrest
      simp only [List.filter_cons, hkey]
      split
      · simp only [List.map_cons, List.mapM_cons, hread, ih]
        rfl
      · exact ih

/-! ## Memories that mirror a cluster -/

/-- Whether two attachments wire the same, with the same labels and owners. -/
structure NetworkAttachment.SameAs (a b : NetworkAttachment) : Prop where
  config : a.config = b.config
  labels : a.metadata.labels = b.metadata.labels
  owners : a.metadata.ownerReferences = b.metadata.ownerReferences

theorem NetworkAttachment.SameAs.agrees_eq {a b : NetworkAttachment} (h : a.SameAs b)
    (c : NetworkAttachment) : a.agrees c = b.agrees c := by
  simp only [agrees, Metadata.owners, h.config, h.owners]

/-- No intent that is being deleted has nothing to keep it. -/
def Guarded (intents : Dict ObjectKey NodeIntent) : Prop :=
  ∀ k i, intents.find? k = some i → i.metadata.isDeleted = true → i.metadata.finalizerList ≠ []

/-- A memory has the objects of the documents of a cluster. It refuses nothing, creates pods without
a status, and has no intent that is being deleted with nothing to keep it. -/
structure Mirrors (ds : Documents) (m : Memory) : Prop where
  intents : Dict.Matches (fun d i => NodeIntent.ofJson? d.json = some i) (ds .nodeIntent) m.intents
  configs : Dict.Matches (fun d c => NodeConfig.ofJson? d.json = some c) (ds .nodeConfig) m.configs
  attachments : Dict.Matches
    (fun d a => ∃ b, NetworkAttachment.ofJson? d.json = some b ∧ b.SameAs a)
    (ds .networkAttachment) m.attachments
  claims : Dict.Matches (fun d c => VolumeClaim.ofJson? d.json = some c) (ds .volumeClaim) m.claims
  pods : Dict.Matches (fun d p => Pod.ofJson? d.json = some p) (ds .pod) m.pods
  secrets : Dict.Matches (fun d s => Secret.ofJson? d.json = some s) (ds .secret) m.secrets
  willing : m.refusingPods = none ∧ m.refusingRelease = none ∧ m.initialStatus = none
  guarded : Guarded m.intents

/-! ## Changes of a mirrored cluster -/

namespace Mirrors

theorem empty : Mirrors (fun _ => {}) {} where
  intents := .empty
  configs := .empty
  attachments := .empty
  claims := .empty
  pods := .empty
  secrets := .empty
  willing := ⟨rfl, rfl, rfl⟩
  guarded := fun _ _ h => nomatch h

variable {ds : Documents} {m : Memory} (h : Mirrors ds m)
include h

theorem guarded_insert (key : ObjectKey) {i : NodeIntent}
    (hi : i.metadata.isDeleted = true → i.metadata.finalizerList ≠ []) :
    Guarded (m.intents.insert key i) := by
  intro k j hj
  rw [Dict.find?_insert] at hj
  split at hj
  · exact Option.some.inj hj ▸ hi
  · exact h.guarded k j hj

theorem guarded_erase (key : ObjectKey) : Guarded (m.intents.erase key) := by
  intro k j hj
  rw [Dict.find?_erase] at hj
  split at hj
  · cases hj
  · exact h.guarded k j hj

theorem withIntents {f : Dict ObjectKey Document → Dict ObjectKey Document}
    {table : Dict ObjectKey NodeIntent}
    (hmatches : Dict.Matches (fun d i => NodeIntent.ofJson? d.json = some i)
      (f (ds .nodeIntent)) table)
    (hguarded : Guarded table) (writes : Nat) :
    Mirrors (ds.change .nodeIntent f) { m with intents := table, statusWrites := writes } where
  intents := .changed hmatches
  configs := h.configs.kept (by decide)
  attachments := h.attachments.kept (by decide)
  claims := h.claims.kept (by decide)
  pods := h.pods.kept (by decide)
  secrets := h.secrets.kept (by decide)
  willing := h.willing
  guarded := hguarded

theorem withAttachments {f : Dict ObjectKey Document → Dict ObjectKey Document}
    {table : Dict ObjectKey NetworkAttachment}
    (hmatches : Dict.Matches
      (fun d a => ∃ b, NetworkAttachment.ofJson? d.json = some b ∧ b.SameAs a)
      (f (ds .networkAttachment)) table) (writes : Nat) :
    Mirrors (ds.change .networkAttachment f)
      { m with attachments := table, attachmentWrites := writes } where
  intents := h.intents.kept (by decide)
  configs := h.configs.kept (by decide)
  attachments := .changed hmatches
  claims := h.claims.kept (by decide)
  pods := h.pods.kept (by decide)
  secrets := h.secrets.kept (by decide)
  willing := h.willing
  guarded := h.guarded

theorem withClaims {f : Dict ObjectKey Document → Dict ObjectKey Document}
    {table : Dict ObjectKey VolumeClaim}
    (hmatches : Dict.Matches (fun d c => VolumeClaim.ofJson? d.json = some c)
      (f (ds .volumeClaim)) table) (writes : Nat) :
    Mirrors (ds.change .volumeClaim f) { m with claims := table, claimWrites := writes } where
  intents := h.intents.kept (by decide)
  configs := h.configs.kept (by decide)
  attachments := h.attachments.kept (by decide)
  claims := .changed hmatches
  pods := h.pods.kept (by decide)
  secrets := h.secrets.kept (by decide)
  willing := h.willing
  guarded := h.guarded

theorem withPods {f : Dict ObjectKey Document → Dict ObjectKey Document}
    {table : Dict ObjectKey Pod}
    (hmatches : Dict.Matches (fun d p => Pod.ofJson? d.json = some p) (f (ds .pod)) table)
    (creates deletes : Nat) :
    Mirrors (ds.change .pod f)
      { m with pods := table, podCreates := creates, podDeletes := deletes } where
  intents := h.intents.kept (by decide)
  configs := h.configs.kept (by decide)
  attachments := h.attachments.kept (by decide)
  claims := h.claims.kept (by decide)
  pods := .changed hmatches
  secrets := h.secrets.kept (by decide)
  willing := h.willing
  guarded := h.guarded

end Mirrors

/-- An attachment that is applied to a mirrored cluster becomes the same as it is in memory. -/
theorem Mirrors.applied_attachment {ds : Documents} {m : Memory} (h : Mirrors ds m)
    (a : NetworkAttachment) (hplain : a.toJson.Plain)
    (hread : NetworkAttachment.ofJson? a.toJson = some a) :
    ∃ d b, (d = match (ds .networkAttachment).find? a.metadata.key with
        | some old => old.applied (.of a.toJson hplain)
        | none => Document.withoutStatus (.of a.toJson hplain)) ∧
      NetworkAttachment.ofJson? d.json = some b ∧ b.SameAs a := by
  have hk := h.attachments a.metadata.key
  generalize (ds .networkAttachment).find? a.metadata.key = x at hk
  generalize m.attachments.find? a.metadata.key = y at hk
  cases hk with
  | none =>
    refine ⟨_, a, rfl, ?_, rfl, rfl, rfl⟩
    rw [NetworkAttachment.json_withoutStatus]
    exact hread
  | some hold =>
    obtain ⟨b, hold, -⟩ := hold
    exact ⟨_, _, rfl, NetworkAttachment.ofJson?_applied hold hplain, rfl, rfl, rfl⟩

end NodeDeploy
