import NodeDeploy.Json.Reader
import NodeDeploy.Time.Rfc3339

/-! # Metadata of objects

Every object of the cluster has metadata: where it lives, what it is called, what it is labelled
with, what owns it and what keeps it from going away.

* `ObjectKey` is the namespace and name that a store keeps an object under;
* `Metadata.key` and `Metadata.displayName` say where and how an object is found.
-/

namespace NodeDeploy

structure ObjectKey where
  ns : String
  name : String
  deriving DecidableEq, Repr, Inhabited

namespace ObjectKey

/-- The key as `namespace/name`. -/
def text (k : ObjectKey) : String := k.ns ++ "/" ++ k.name

/-- Keys are ordered by namespace, then by name. -/
def before (a b : ObjectKey) : Bool :=
  Key.lt a.ns b.ns || (a.ns == b.ns && Key.lt a.name b.name)

end ObjectKey

instance : Key ObjectKey where
  lt := ObjectKey.before
  irrefl a := by simp [ObjectKey.before, Key.irrefl]
  trans {a b c} h g := by
    simp only [ObjectKey.before, Bool.or_eq_true, Bool.and_eq_true, beq_iff_eq] at h g ⊢
    rcases h with h | ⟨h₁, h₂⟩ <;> rcases g with g | ⟨g₁, g₂⟩
    · exact .inl (Key.trans h g)
    · exact .inl (g₁ ▸ h)
    · exact .inl (h₁ ▸ g)
    · exact .inr ⟨h₁.trans g₁, Key.trans h₂ g₂⟩
  connected {a b} h g := by
    simp only [ObjectKey.before, Bool.or_eq_false_iff, Bool.and_eq_false_iff, beq_eq_false_iff_ne]
      at h g
    have hn : a.ns = b.ns := Key.connected h.1 g.1
    have hm : a.name = b.name :=
      Key.connected (h.2.resolve_left fun k => k hn) (g.2.resolve_left fun k => k hn.symm)
    cases a; cases b; simp_all

/-- What owns an object, and is garbage collected together with it. -/
structure OwnerReference where
  apiVersion : String
  kind : String
  name : String
  uid : String
  controller : Option Bool
  deriving DecidableEq, Repr, Inhabited

namespace OwnerReference

def toJson (o : OwnerReference) : Json := .record [
  ("apiVersion", some (.str o.apiVersion)),
  ("controller", o.controller.map .bool),
  ("kind", some (.str o.kind)),
  ("name", some (.str o.name)),
  ("uid", some (.str o.uid))]

def ofJson? (j : Json) : Option OwnerReference := do
  let m ← j.readObject
  some {
    apiVersion := ← Json.lenient m "apiVersion" Json.readString ""
    kind := ← Json.lenient m "kind" Json.readString ""
    name := ← Json.lenient m "name" Json.readString ""
    uid := ← Json.lenient m "uid" Json.readString ""
    controller := ← Json.optional m "controller" Json.readBool }

end OwnerReference

/-- The metadata of an object. Absent and empty lists or dictionaries are told apart. -/
structure Metadata where
  name : Option String := none
  generateName : Option String := none
  ns : Option String := none
  uid : Option String := none
  labels : Option (Dict String String) := none
  annotations : Option (Dict String String) := none
  finalizers : Option (List String) := none
  ownerReferences : Option (List OwnerReference) := none
  deletionTimestamp : Option Instant := none
  generation : Option Int := none
  resourceVersion : Option String := none
  deriving DecidableEq, Repr, Inhabited

namespace Metadata

/-- The name, or the stem of a name to be made, or nothing. -/
def displayName (m : Metadata) : String := (m.name.or m.generateName).getD ""

/-- The key that a store keeps the object under. -/
def key (m : Metadata) : ObjectKey := ⟨m.ns.getD "", m.displayName⟩

theorem key_of_ns {m : Metadata} {ns : String} (h : m.ns = some ns) :
    m.key = ⟨ns, m.displayName⟩ := by
  rw [key, h]
  rfl

def finalizerList (m : Metadata) : List String := m.finalizers.getD []

def owners (m : Metadata) : List OwnerReference := m.ownerReferences.getD []

def isDeleted (m : Metadata) : Bool := m.deletionTimestamp.isSome

def annotation? (m : Metadata) (name : String) : Option String :=
  m.annotations.bind fun d => d.find? name

def label? (m : Metadata) (name : String) : Option String := m.labels.bind fun d => d.find? name

def annotate (m : Metadata) (name value : String) : Metadata :=
  { m with annotations := some ((m.annotations.getD {}).insert name value) }

def toJson (m : Metadata) : Json := .record [
  ("annotations", m.annotations.map Json.ofStrings),
  ("deletionTimestamp", m.deletionTimestamp.map fun t => .str t.wholeText),
  ("finalizers", m.finalizers.map Json.strings),
  ("generateName", m.generateName.map .str),
  ("generation", m.generation.map .int),
  ("labels", m.labels.map Json.ofStrings),
  ("name", m.name.map .str),
  ("namespace", m.ns.map .str),
  ("ownerReferences", m.ownerReferences.map fun l => .arr (l.map OwnerReference.toJson)),
  ("resourceVersion", m.resourceVersion.map .str),
  ("uid", m.uid.map .str)]

def readInstant (j : Json) : Option Instant := j.readString.bind Instant.read?

def ofJson? (j : Json) : Option Metadata := do
  let m ← j.readObject
  some {
    name := ← Json.optional m "name" Json.readString
    generateName := ← Json.optional m "generateName" Json.readString
    ns := ← Json.optional m "namespace" Json.readString
    uid := ← Json.optional m "uid" Json.readString
    labels := ← Json.optional m "labels" (Json.readDict Json.readString)
    annotations := ← Json.optional m "annotations" (Json.readDict Json.readString)
    finalizers := ← Json.optional m "finalizers" (Json.readList Json.readString)
    ownerReferences := ← Json.optional m "ownerReferences" (Json.readList OwnerReference.ofJson?)
    deletionTimestamp := ← Json.optional m "deletionTimestamp" readInstant
    generation := ← Json.optional m "generation" Json.readInt64
    resourceVersion := ← Json.optional m "resourceVersion" Json.readString }

end Metadata

/-- A kind of object: the version of its interface, its name, and where the cluster lists it. -/
structure ResourceKind where
  group : String
  version : String
  kind : String
  plural : String
  deriving DecidableEq, Repr

namespace ResourceKind

def apiVersion (k : ResourceKind) : String :=
  if k.group.isEmpty then k.version else k.group ++ "/" ++ k.version

def typeMembers (k : ResourceKind) : List (String × Option Json) :=
  [("apiVersion", some (.str k.apiVersion)), ("kind", some (.str k.kind))]

/-- Whether an object says, if anything, that it is of this kind, and says so each time. -/
def admits (k : ResourceKind) (members : List (String × Json)) : Bool :=
  let agrees (name value : String) : Bool :=
    (Json.valuesOf name members).all fun
      | .str s => s == value
      | _ => false
  agrees "apiVersion" k.apiVersion && agrees "kind" k.kind

end ResourceKind

end NodeDeploy
