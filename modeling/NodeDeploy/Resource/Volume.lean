import NodeDeploy.Resource.Metadata

/-! # Volumes and their mounts

A pod has volumes, each from one source, and its containers mount them by name.
-/

namespace NodeDeploy

/-- A key of a source, and the file that it becomes. -/
structure FileItem where
  key : String
  path : String
  deriving DecidableEq, Repr, Inhabited

inductive VolumeSource where
  /-- The keys of a config map; all of them unless some are listed. -/
  | configMap (name : String) (items : Option (List FileItem)) (defaultMode : Option Int)
  /-- The keys of a secret; all of them unless some are listed. -/
  | secret (name : Option String) (items : Option (List FileItem))
  /-- Scratch space on a medium. -/
  | emptyDir (medium : Option String)
  /-- The storage of a claim. -/
  | claim (name : String)
  /-- A source of another kind. -/
  | other
  deriving DecidableEq, Repr, Inhabited

structure Volume where
  name : String
  source : VolumeSource
  deriving DecidableEq, Repr, Inhabited

/-- The place of a volume, or of one file in it, in a container. -/
structure VolumeMount where
  name : String
  mountPath : String
  subPath : Option String := none
  deriving DecidableEq, Repr, Inhabited

namespace FileItem

def toJson (i : FileItem) : Json := .record [
  ("key", some (.str i.key)),
  ("path", some (.str i.path))]

def ofJson? (j : Json) : Option FileItem := do
  let m ← j.readObject
  some {
    key := ← Json.lenient m "key" Json.readString ""
    path := ← Json.lenient m "path" Json.readString "" }

end FileItem

namespace VolumeSource

def itemsJson (items : Option (List FileItem)) : Option Json :=
  items.map fun l => .arr (l.map FileItem.toJson)

def member : VolumeSource → Option (String × Json)
  | .configMap name items mode => some ("configMap", .record [
      ("defaultMode", mode.map .int), ("items", itemsJson items), ("name", some (.str name))])
  | .emptyDir medium => some ("emptyDir", .record [("medium", medium.map .str)])
  | .claim name => some ("persistentVolumeClaim", .record [("claimName", some (.str name))])
  | .secret name items => some ("secret", .record [
      ("items", itemsJson items), ("secretName", name.map .str)])
  | .other => none

/-- The member of a volume with a name, if that is the one that gives its source. -/
def memberNamed (s : VolumeSource) (name : String) : Option Json :=
  s.member.bind fun m => if m.1 = name then some m.2 else none

def configMapOfJson? (j : Json) : Option VolumeSource := do
  let m ← j.readObject
  some (.configMap
    (← Json.lenient m "name" Json.readString "")
    (← Json.optional m "items" (Json.readList FileItem.ofJson?))
    (← Json.optional m "defaultMode" Json.readInt32))

def secretOfJson? (j : Json) : Option VolumeSource := do
  let m ← j.readObject
  some (.secret
    (← Json.optional m "secretName" Json.readString)
    (← Json.optional m "items" (Json.readList FileItem.ofJson?)))

def emptyDirOfJson? (j : Json) : Option VolumeSource := do
  let m ← j.readObject
  some (.emptyDir (← Json.optional m "medium" Json.readString))

def claimOfJson? (j : Json) : Option VolumeSource := do
  let m ← j.readObject
  some (.claim (← Json.lenient m "claimName" Json.readString ""))

def ofMembers? (m : List (String × Json)) : Option VolumeSource := do
  let configMap ← Json.optional m "configMap" configMapOfJson?
  let secret ← Json.optional m "secret" secretOfJson?
  let emptyDir ← Json.optional m "emptyDir" emptyDirOfJson?
  let claim ← Json.optional m "persistentVolumeClaim" claimOfJson?
  some (((configMap.or secret).or (emptyDir.or claim)).getD .other)

end VolumeSource

namespace Volume

/-- The volume of a config map, cut down to some items if any are given. -/
def ofConfigMap (name source : String) (items : List FileItem) (mode : Option Int) : Volume :=
  ⟨name, .configMap source (if items.isEmpty then none else some items) mode⟩

def ofSecret (name source : String) (items : List FileItem) : Volume :=
  ⟨name, .secret (some source) (some items)⟩

def ofMedium (name medium : String) : Volume := ⟨name, .emptyDir (some medium)⟩

def ofClaim (name claim : String) : Volume := ⟨name, .claim claim⟩

def claim? (v : Volume) : Option String :=
  match v.source with
  | .claim name => some name
  | _ => none

def toJson (v : Volume) : Json := .record [
  ("configMap", v.source.memberNamed "configMap"),
  ("emptyDir", v.source.memberNamed "emptyDir"),
  ("name", some (.str v.name)),
  ("persistentVolumeClaim", v.source.memberNamed "persistentVolumeClaim"),
  ("secret", v.source.memberNamed "secret")]

def ofJson? (j : Json) : Option Volume := do
  let m ← j.readObject
  some {
    name := ← Json.lenient m "name" Json.readString ""
    source := ← VolumeSource.ofMembers? m }

end Volume

namespace VolumeMount

def toJson (v : VolumeMount) : Json := .record [
  ("mountPath", some (.str v.mountPath)),
  ("name", some (.str v.name)),
  ("subPath", v.subPath.map .str)]

def ofJson? (j : Json) : Option VolumeMount := do
  let m ← j.readObject
  some {
    name := ← Json.lenient m "name" Json.readString ""
    mountPath := ← Json.lenient m "mountPath" Json.readString ""
    subPath := ← Json.optional m "subPath" Json.readString }

end VolumeMount

end NodeDeploy
