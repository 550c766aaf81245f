import NodeDeploy.Definition.Schema
import NodeDeploy.Resource.NetworkAttachment
import NodeDeploy.Resource.NodeConfig
import NodeDeploy.Resource.NodeIntent
import NodeDeploy.Yaml.Printer

/-! # Definitions of the kinds of objects

A definition makes a kind of object known to the cluster: its names, the schema of its objects, the
columns of its listings, and whether it has a status of its own.

* `Definition.nodeIntent`, `Definition.nodeConfig` and `Definition.networkAttachment`;
* `definitionsText` is the text of those that a cluster needs before nodes can be deployed.
-/

namespace NodeDeploy

/-- What the cluster must know of a kind of object. -/
structure Definition where
  kind : ResourceKind
  /-- The columns of a listing: a name and the path of a string. -/
  columns : List (String × String)
  spec : Schema
  status : Option Schema

namespace Definition

def singular (k : ResourceKind) : String := String.ofList (k.kind.toList.map Char.toLower)

def schema (d : Definition) : Schema :=
  .record
    { description := some ("Auto-generated derived type for " ++ d.kind.kind ++
        "Spec via \x60CustomResource\x60") }
    (("spec", true, d.spec) :: (d.status.map fun s => ("status", false, s)).toList)

def columnJson (column : String × String) : Json :=
  .obj [("jsonPath", .str column.2), ("name", .str column.1), ("type", .str "string")]

/-- The only version of a kind. -/
def versionJson (d : Definition) : Json := .obj [
  ("additionalPrinterColumns", .arr (d.columns.map columnJson)),
  ("name", .str d.kind.version),
  ("schema", .obj [("openAPIV3Schema", d.schema.toJson (some d.kind.kind))]),
  ("served", .bool true),
  ("storage", .bool true),
  ("subresources", if d.status.isSome then .obj [("status", .obj [])] else .obj [])]

def toJson (d : Definition) : Json := .obj [
  ("apiVersion", .str "apiextensions.k8s.io/v1"),
  ("kind", .str "CustomResourceDefinition"),
  ("metadata", .obj [("name", .str (d.kind.plural ++ "." ++ d.kind.group))]),
  ("spec", .obj [
    ("group", .str d.kind.group),
    ("names", .obj [
      ("categories", .arr []),
      ("kind", .str d.kind.kind),
      ("plural", .str d.kind.plural),
      ("shortNames", .arr []),
      ("singular", .str (singular d.kind))]),
    ("scope", .str "Namespaced"),
    ("versions", .arr [d.versionJson])])]

def yaml (d : Definition) : String := Yaml.text d.toJson

def described (text : String) : Schema := .string { description := some text }

def optionalString (text : String) : Schema :=
  .string { description := some text, nullable := true }

def condition : Schema :=
  .record { description := some "A single status condition." } [
    ("lastTransitionTime", true, .time { description := some "Last time \x60status\x60 changed" }),
    ("message", false,
      .string { description := some "Human-readable detail", default := some (.str "") }),
    ("reason", true,
      .word { description := some "Reason for the current status" }
        ([ConditionReason.ready, .failed, .unknown].map ConditionReason.word)),
    ("status", true,
      .word { description := some "Condition status" }
        ([ConditionStatus.holds, .fails, .undetermined].map ConditionStatus.word)),
    ("type", true,
      .word { description := some "Condition type" } [ConditionType.ready.word])]

def nodeIntent : Definition where
  kind := .nodeIntent
  columns := [
    ("Provider", ".spec.provider"),
    ("Ready", ".status.conditions[?(@.type==\"Ready\")].status"),
    ("Reason", ".status.conditions[?(@.type==\"Ready\")].reason")]
  spec := .record {} [
    ("parametersRef", false,
      .record
        { description := some <|
            "Explicit NodeConfig reference; name-matched and \"default\" configs are tried " ++
              "otherwise"
          nullable := true } [
        ("name", true, described "Name of the referenced NodeConfig"),
        ("namespace", false, optionalString "Namespace of the referenced NodeConfig")]),
    ("provider", true,
      described "Provider identifier selecting the driver (e.g. \"srlinux.nokia.com\")")]
  status := some <| .record { nullable := true } [
    ("conditions", false,
      .list { description := some "Status conditions, at most one per type" } condition)]

def persistentVolume : Schema :=
  .record { description := some "A persistent volume request" } [
    ("mountPath", true, described "Mount path inside the node container"),
    ("name", true, described "Volume name, also the suffix of the claim name"),
    ("requests", false,
      .dictionary
        { description := some "Storage requests (e.g. \"storage\": \"1Gi\")"
          default := some (.obj []) })]

def nodeConfig : Definition where
  kind := .nodeConfig
  columns := [("Provider", ".spec.provider"), ("Model", ".spec.model")]
  spec := .record {} [
    ("constraints", false,
      .dictionary
        { description :=
            some "Resource quantities keyed by resource name (e.g. \"cpu\", \"memory\")" }),
    ("image", false, optionalString "Container image reference"),
    ("licenseKey", false, optionalString "Key inside the provider license secret to mount"),
    ("model", false, optionalString "Device model/variant name"),
    ("persistentVolumes", false,
      .list { description := some "Persistent volumes to claim and mount" } persistentVolume),
    ("provider", true, described "Provider this config applies to")]
  status := none

def networkAttachment : Definition where
  kind := .networkAttachment
  columns := []
  spec := .record {} [("config", true, described "CNI configuration JSON")]
  status := none

end Definition

/-- The definitions that a cluster needs before nodes can be deployed, each after a line of
dashes. -/
def definitionsText : String :=
  String.join ([Definition.nodeIntent, .nodeConfig].map fun d => "---\n" ++ d.yaml)

end NodeDeploy
