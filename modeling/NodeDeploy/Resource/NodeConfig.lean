import NodeDeploy.Resource.Metadata

/-! # Node configurations

A node configuration holds the parameters of nodes of one provider: model, image, resource
quantities, license and persistent volumes. What it leaves out, or gives as the empty string, is
left to the defaults of the device family.

* `NodeConfigSpec.resources` lays the quantities of a configuration over those of a family.
-/

namespace NodeDeploy

def ResourceKind.nodeConfig : ResourceKind :=
  ⟨"dcops.microscaler.io", "v1alpha1", "NodeConfig", "nodeconfigs"⟩

structure PersistentVolume where
  /-- Name of the volume, and the end of the name of its claim. -/
  name : String
  mountPath : String
  requests : Dict String String
  deriving DecidableEq, Repr, Inhabited

structure NodeConfigSpec where
  provider : String
  model : Option String := none
  image : Option String := none
  /-- Quantities by the name of the resource. -/
  constraints : Dict String String := {}
  /-- Key in the license secret of the provider. -/
  licenseKey : Option String := none
  persistentVolumes : List PersistentVolume := []
  deriving DecidableEq, Repr, Inhabited

structure NodeConfig where
  metadata : Metadata
  spec : NodeConfigSpec
  deriving DecidableEq, Repr, Inhabited

/-- What a container asks for and what it is held to; a part without quantities is left out. -/
structure Resources where
  limits : Option (Dict String String)
  requests : Option (Dict String String)
  deriving DecidableEq, Repr, Inhabited

namespace PersistentVolume

def toJson (v : PersistentVolume) : Json := .record [
  ("name", some (.str v.name)),
  ("mountPath", some (.str v.mountPath)),
  ("requests", some (.ofStrings v.requests))]

def ofJson? (j : Json) : Option PersistentVolume := do
  let m ← j.readRecord ["name", "mountPath", "requests"] 2
  some {
    name := ← Json.required m "name" Json.readString
    mountPath := ← Json.required m "mountPath" Json.readString
    requests := ← Json.defaulted m "requests" (Json.readDict Json.readString) {} }

end PersistentVolume

namespace Resources

def toJson (r : Resources) : Json := .record [
  ("limits", r.limits.map Json.ofStrings),
  ("requests", r.requests.map Json.ofStrings)]

def ofJson? (j : Json) : Option Resources := do
  let m ← j.readObject
  some {
    limits := ← Json.optional m "limits" (Json.readDict Json.readString)
    requests := ← Json.optional m "requests" (Json.readDict Json.readString) }

end Resources

/-- A string that counts only if it is given and not empty. -/
def givenOr (s : Option String) (default : String) : String :=
  match s with
  | some s => if s.isEmpty then default else s
  | none => default

def nonemptyDict (d : Dict String String) : Option (Dict String String) :=
  if d.isEmpty then none else some d

@[simp] theorem getD_nonemptyDict (d : Dict String String) : (nonemptyDict d).getD {} = d := by
  rw [nonemptyDict]
  split
  · next h => exact (Dict.isEmpty_iff.1 h).symm
  · rfl

@[simp] theorem nonemptyDict_eq_none_iff {d : Dict String String} :
    nonemptyDict d = none ↔ d = {} := by
  rw [nonemptyDict, ← Dict.isEmpty_iff]
  split <;> simp_all

namespace NodeConfigSpec

/-- The parameters that leave everything to the provider. -/
def ofProvider (provider : String) : NodeConfigSpec := { provider }

def modelOr (s : NodeConfigSpec) (default : String) : String := givenOr s.model default

def imageOr (s : NodeConfigSpec) (default : String) : String := givenOr s.image default

/-- The requests of a family under the constraints: every constraint counts. -/
def requests (s : NodeConfigSpec) (defaults : Dict String String) : Dict String String :=
  defaults.overlay s.constraints

/-- The limits of a family under the constraints: a constraint counts where the family has a
limit. -/
def limits (s : NodeConfigSpec) (defaults : Dict String String) : Dict String String :=
  defaults.mapValues fun name value => (s.constraints.find? name).getD value

theorem find?_requests (s : NodeConfigSpec) (defaults : Dict String String) (name : String) :
    (s.requests defaults).find? name = (s.constraints.find? name).or (defaults.find? name) :=
  Dict.find?_overlay defaults s.constraints name

theorem find?_limits (s : NodeConfigSpec) (defaults : Dict String String) (name : String) :
    (s.limits defaults).find? name =
      (defaults.find? name).map fun value => (s.constraints.find? name).getD value :=
  Dict.find?_mapValues defaults _ name

def resources (s : NodeConfigSpec) (requests limits : Dict String String) : Resources :=
  ⟨nonemptyDict (s.limits limits), nonemptyDict (s.requests requests)⟩

/-- The JSON form; what is absent or empty is left out. -/
def toJson (s : NodeConfigSpec) : Json := .record [
  ("provider", some (.str s.provider)),
  ("model", s.model.map .str),
  ("image", s.image.map .str),
  ("constraints", (nonemptyDict s.constraints).map .ofStrings),
  ("licenseKey", s.licenseKey.map .str),
  ("persistentVolumes",
    if s.persistentVolumes.isEmpty then none
    else some (.arr (s.persistentVolumes.map PersistentVolume.toJson)))]

def ofJson? (j : Json) : Option NodeConfigSpec := do
  let m ← j.readRecord
    ["provider", "model", "image", "constraints", "licenseKey", "persistentVolumes"] 1
  some {
    provider := ← Json.required m "provider" Json.readString
    model := ← Json.optional m "model" Json.readString
    image := ← Json.optional m "image" Json.readString
    constraints := ← Json.defaulted m "constraints" (Json.readDict Json.readString) {}
    licenseKey := ← Json.optional m "licenseKey" Json.readString
    persistentVolumes :=
      ← Json.defaulted m "persistentVolumes" (Json.readList PersistentVolume.ofJson?) [] }

end NodeConfigSpec

namespace NodeConfig

def toJson (c : NodeConfig) : Json := .record <|
  ResourceKind.nodeConfig.typeMembers ++ [
    ("metadata", some c.metadata.toJson),
    ("spec", some c.spec.toJson)]

def ofJson? (j : Json) : Option NodeConfig := do
  let m ← j.readRecord ["metadata", "spec"] 2
  some {
    metadata := ← Json.required m "metadata" Metadata.ofJson?
    spec := ← Json.required m "spec" NodeConfigSpec.ofJson? }

end NodeConfig

end NodeDeploy
