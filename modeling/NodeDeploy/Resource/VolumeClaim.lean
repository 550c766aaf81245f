import NodeDeploy.Resource.NodeConfig

/-! # Volume claims

A claim asks for storage that outlives the pods that mount it.
-/

namespace NodeDeploy

def ResourceKind.volumeClaim : ResourceKind :=
  ⟨"", "v1", "PersistentVolumeClaim", "persistentvolumeclaims"⟩

structure VolumeClaimSpec where
  accessModes : Option (List String)
  resources : Option Resources
  deriving DecidableEq, Repr, Inhabited

structure VolumeClaim where
  metadata : Metadata
  spec : Option VolumeClaimSpec := none
  deriving DecidableEq, Repr, Inhabited

namespace VolumeClaimSpec

def toJson (s : VolumeClaimSpec) : Json := .record [
  ("accessModes", s.accessModes.map Json.strings),
  ("resources", s.resources.map Resources.toJson)]

def ofJson? (j : Json) : Option VolumeClaimSpec := do
  let m ← j.readObject
  some {
    accessModes := ← Json.optional m "accessModes" (Json.readList Json.readString)
    resources := ← Json.optional m "resources" Resources.ofJson? }

end VolumeClaimSpec

namespace VolumeClaim

def toJson (c : VolumeClaim) : Json := .record <|
  ResourceKind.volumeClaim.typeMembers ++ [
    ("metadata", some c.metadata.toJson),
    ("spec", c.spec.map VolumeClaimSpec.toJson)]

def ofJson? (j : Json) : Option VolumeClaim := do
  let m ← j.readObject
  guard (ResourceKind.volumeClaim.admits m)
  some {
    metadata := ← Json.lenient m "metadata" Metadata.ofJson? {}
    spec := ← Json.optional m "spec" VolumeClaimSpec.ofJson? }

end VolumeClaim

end NodeDeploy
