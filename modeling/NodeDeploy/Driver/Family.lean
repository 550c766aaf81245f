import NodeDeploy.Driver.Catalog
import NodeDeploy.Resource.NodeConfig
import NodeDeploy.Wiring

/-! # Families of devices

What the nodes of a family have in common: the image and model they run unless their configuration
says otherwise, their command, environment and resources, the interfaces that are wired, and the
models there are.
-/

namespace NodeDeploy

structure Family where
  provider : String
  image : String
  model : String
  command : List String
  args : List String
  env : List (String × String)
  requests : Dict String String
  limits : Dict String String
  /-- The interfaces with network attachments. -/
  interfaces : List String
  /-- The secret with the licenses. -/
  licenseSecret : String
  catalog : Catalog
  platform : Platform
  deriving Repr

structure BootstrapSecrets where
  credentials : String
  certificates : String
  deriving DecidableEq, Repr, Inhabited

namespace Family

def srLinux (provider : String) : Family where
  provider
  image := "ghcr.io/nokia/srlinux:latest"
  model := "ixrd3l"
  command := ["/tini", "--", "fixuid", "-q", "/k8s-entrypoint.sh"]
  args := ["sudo", "bash", "-c", "touch /.dockerenv && /opt/srlinux/bin/sr_linux"]
  env := [("SRLINUX", "1")]
  requests := Dict.ofList [("cpu", "0.5"), ("memory", "1Gi")]
  limits := {}
  interfaces := ["e1-1", "e1-2"]
  licenseSecret := "licenses.srl.nokia.com"
  catalog := .srLinux
  platform := .srLinux

def srOs (provider : String) : Family where
  provider
  image := "vrnetlab/nokia_sros:latest"
  model := "sr-1"
  command := ["bin/tini"]
  args := []
  env := []
  requests := Dict.ofList [("cpu", "2"), ("memory", "8Gi")]
  limits := Dict.ofList [("cpu", "2"), ("memory", "8Gi"), ("hugepages-1Gi", "8Gi")]
  interfaces := ["e1-1", "e1-2"]
  licenseSecret := "licenses.sros.nokia.com"
  catalog := .srOs
  platform := .srOs

/-- The model of a node must be in the catalog. -/
def validate (f : Family) (spec : NodeConfigSpec) : Except Failure Unit :=
  let model := spec.modelOr f.model
  if f.catalog.contains model then .ok () else .error (.unsupportedModel f.provider model)

def attachments (f : Family) (i : NodeIntent) : Except Failure (List NetworkAttachment) :=
  f.interfaces.mapM i.networkAttachment

/-- A node is logged in to with the credentials of its provider, and serves the certificate issued
under its own name. -/
def secrets (f : Family) (i : NodeIntent) : BootstrapSecrets :=
  ⟨f.provider, i.metadata.displayName⟩

end Family

end NodeDeploy
