import NodeDeploy.Resource.Metadata

/-! # Network attachments

A network attachment holds the configuration, as JSON text, of a chain of network plugins that wires
one interface of a pod.
-/

namespace NodeDeploy

def ResourceKind.networkAttachment : ResourceKind :=
  ⟨"k8s.cni.cncf.io", "v1", "NetworkAttachmentDefinition", "network-attachment-definitions"⟩

structure NetworkAttachment where
  metadata : Metadata
  /-- The configuration of the plugin chain, as JSON text. -/
  config : String
  deriving DecidableEq, Repr, Inhabited

namespace NetworkAttachment

def toJson (a : NetworkAttachment) : Json := .record <|
  ResourceKind.networkAttachment.typeMembers ++ [
    ("metadata", some a.metadata.toJson),
    ("spec", some (.record [("config", some (.str a.config))]))]

def configOfJson? (j : Json) : Option String := do
  let m ← j.readRecord ["config"] 1
  Json.required m "config" Json.readString

def ofJson? (j : Json) : Option NetworkAttachment := do
  let m ← j.readRecord ["metadata", "spec"] 2
  some {
    metadata := ← Json.required m "metadata" Metadata.ofJson?
    config := ← Json.required m "spec" configOfJson? }

/-- Whether two attachments wire the same and belong to the same owners. -/
def agrees (a b : NetworkAttachment) : Bool :=
  a.config == b.config && a.metadata.owners == b.metadata.owners

end NetworkAttachment

end NodeDeploy
