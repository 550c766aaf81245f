import NodeDeploy.Resource.Condition

/-! # Node intents

A node intent declares that a network node shall exist: which provider deploys it and, if it says
so, which node configuration it uses. Its status holds the conditions of the node.
-/

namespace NodeDeploy

def ResourceKind.nodeIntent : ResourceKind :=
  ⟨"dcops.microscaler.io", "v1alpha1", "NodeIntent", "nodeintents"⟩

def intentFinalizer : String := "nodedeployer.dcops.microscaler.io/finalizer"

structure ConfigReference where
  name : String
  ns : Option String
  deriving DecidableEq, Repr, Inhabited

structure NodeIntentSpec where
  provider : String
  parametersRef : Option ConfigReference
  deriving DecidableEq, Repr, Inhabited

structure NodeIntentStatus where
  conditions : List Condition
  deriving DecidableEq, Repr, Inhabited

structure NodeIntent where
  metadata : Metadata
  spec : NodeIntentSpec
  status : Option NodeIntentStatus
  deriving DecidableEq, Repr, Inhabited

namespace ConfigReference

def toJson (r : ConfigReference) : Json := .record [
  ("name", some (.str r.name)),
  ("namespace", r.ns.map .str)]

def ofJson? (j : Json) : Option ConfigReference := do
  let m ← j.readRecord ["name", "namespace"] 1
  some {
    name := ← Json.required m "name" Json.readString
    ns := ← Json.optional m "namespace" Json.readString }

end ConfigReference

namespace NodeIntentSpec

def toJson (s : NodeIntentSpec) : Json := .record [
  ("provider", some (.str s.provider)),
  ("parametersRef", s.parametersRef.map ConfigReference.toJson)]

def ofJson? (j : Json) : Option NodeIntentSpec := do
  let m ← j.readRecord ["provider", "parametersRef"] 1
  some {
    provider := ← Json.required m "provider" Json.readString
    parametersRef := ← Json.optional m "parametersRef" ConfigReference.ofJson? }

end NodeIntentSpec

namespace NodeIntentStatus

def empty : NodeIntentStatus := ⟨[]⟩

/-- The first condition of a type. -/
def condition? (s : NodeIntentStatus) (type : ConditionType) : Option Condition :=
  s.conditions.find? fun c => c.type = type

def set (s : NodeIntentStatus) (c : Condition) : NodeIntentStatus := ⟨setCondition c s.conditions⟩

def changedBy (s : NodeIntentStatus) (c : Condition) : Bool := changesCondition c s.conditions

/-- The JSON form; an empty list of conditions is left out. -/
def toJson (s : NodeIntentStatus) : Json := .record [
  ("conditions",
    if s.conditions.isEmpty then none else some (.arr (s.conditions.map Condition.toJson)))]

def ofJson? (j : Json) : Option NodeIntentStatus := do
  let m ← j.readRecord ["conditions"] 0
  some { conditions := ← Json.defaulted m "conditions" (Json.readList Condition.ofJson?) [] }

end NodeIntentStatus

namespace NodeIntent

def readyCondition? (i : NodeIntent) : Option Condition :=
  i.status.bind fun s => s.condition? .ready

/-- The status, empty if none was recorded. -/
def statusOrEmpty (i : NodeIntent) : NodeIntentStatus := i.status.getD .empty

def toJson (i : NodeIntent) : Json := .record <|
  ResourceKind.nodeIntent.typeMembers ++ [
    ("metadata", some i.metadata.toJson),
    ("spec", some i.spec.toJson),
    ("status", i.status.map NodeIntentStatus.toJson)]

def ofJson? (j : Json) : Option NodeIntent := do
  let m ← j.readRecord ["metadata", "spec", "status"] 3
  some {
    metadata := ← Json.required m "metadata" Metadata.ofJson?
    spec := ← Json.required m "spec" NodeIntentSpec.ofJson?
    status := ← Json.optional m "status" NodeIntentStatus.ofJson? }

end NodeIntent

end NodeDeploy
