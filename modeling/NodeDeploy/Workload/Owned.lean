import NodeDeploy.Failure
import NodeDeploy.Resource.NodeIntent

/-! # Objects owned by a node intent

Everything that is deployed for a node intent lives in its namespace, is named after it and belongs
to it, so that it is garbage collected with it.

* `NodeIntent.ownedMetadata` is the metadata of such an object; it needs the namespace, the name and
  the identity of the intent.
-/

namespace NodeDeploy

def partName (node part : String) : String := node ++ "-" ++ part

namespace NodeIntent

/-- The namespace and name of an intent, whose namespace must be known. -/
def objectKey (i : NodeIntent) : Except Failure ObjectKey :=
  match i.metadata.ns with
  | some ns => .ok ⟨ns, i.metadata.displayName⟩
  | none => .error (.store (.missingField "namespace"))

def ownerReference? (i : NodeIntent) : Option OwnerReference := do
  let name ← i.metadata.name
  let uid ← i.metadata.uid
  some {
    apiVersion := ResourceKind.nodeIntent.apiVersion
    kind := ResourceKind.nodeIntent.kind
    name, uid
    controller := some true }

def ownedMetadata (i : NodeIntent) (name : String) : Except Failure Metadata := do
  let key ← i.objectKey
  match i.ownerReference? with
  | some owner => .ok { name := some name, ns := some key.ns, ownerReferences := some [owner] }
  | none => .error (.store (.missingField "uid"))

end NodeIntent

end NodeDeploy
