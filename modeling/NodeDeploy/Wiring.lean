import NodeDeploy.Json.Printer
import NodeDeploy.Resource.NetworkAttachment
import NodeDeploy.Workload.Owned

/-! # Wiring the interfaces of a node

Each wired interface of a node has a network attachment, whose plugin chain is a `wire` plugin bound
to the interface and a `tuning` plugin that lets the pod set the address of the interface. The pod
selects its attachments by an annotation.

* `Wiring.chainText` is the text of a plugin chain;
* `NodeIntent.networkAttachment` is the attachment of an interface;
* `Wiring.selection?` is the annotation that selects some attachments.
-/

namespace NodeDeploy

namespace Wiring

def chainVersion : String := "0.3.1"

def interfaceLabel : String := "dcops.microscaler.io/interface"

/-- What a pod may ask of the tuning plugin: addresses, and the hardware address. -/
structure Capabilities where
  ips : Bool := false
  mac : Bool := false
  deriving DecidableEq, Repr, Inhabited

def Capabilities.toJson (c : Capabilities) : Json := .record [
  ("ips", if c.ips then some (.bool true) else none),
  ("mac", if c.mac then some (.bool true) else none)]

def wirePlugin (interface : String) : Json :=
  .obj [("type", .str "wire"), ("interfaceName", .str interface)]

def tuningPlugin (c : Capabilities) : Json :=
  .obj [("type", .str "tuning"), ("capabilities", c.toJson)]

def chain (interface : String) (tuning : Option Capabilities) : Json := .obj [
  ("cniVersion", .str chainVersion),
  ("plugins", .arr (wirePlugin interface :: (tuning.map tuningPlugin).toList))]

def chainText (interface : String) (tuning : Option Capabilities) : String :=
  (chain interface tuning).text

/-- How a pod selects an attachment: by its name and, where it is known, the interface. -/
def selectionEntry (a : NetworkAttachment) : Json := .record [
  ("name", some (.str (a.metadata.name.getD ""))),
  ("interface", (a.metadata.label? interfaceLabel).map .str)]

/-- The annotation that selects some attachments, if there are any. -/
def selection? (attachments : List NetworkAttachment) : Option String :=
  if attachments.isEmpty then none else some (Json.arr (attachments.map selectionEntry)).text

end Wiring

def NodeIntent.networkAttachment (i : NodeIntent) (interface : String) :
    Except Failure NetworkAttachment := do
  let metadata ← i.ownedMetadata (partName i.metadata.displayName interface)
  .ok {
    metadata := { metadata with
      labels := some (Dict.ofList [(Wiring.interfaceLabel, interface)]) }
    config := Wiring.chainText interface (some { mac := true }) }

end NodeDeploy
