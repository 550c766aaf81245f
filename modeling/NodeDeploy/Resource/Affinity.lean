import NodeDeploy.Resource.Metadata

/-! # Affinity

Rules that keep pods away from other pods, as preferences with a weight: prefer a host, or another
domain of the topology, without pods whose labels match.
-/

namespace NodeDeploy

/-- A label that has, by an operator, to do with some values. -/
structure LabelRequirement where
  key : String
  operator : String
  values : Option (List String)
  deriving DecidableEq, Repr, Inhabited

/-- The pods that a rule is about, and the domain that they must not share. -/
structure AffinityTerm where
  /-- Requirements on the labels, if there is a selector and it has any. -/
  requirements : Option (Option (List LabelRequirement))
  topologyKey : String
  deriving DecidableEq, Repr, Inhabited

structure WeightedTerm where
  term : AffinityTerm
  weight : Int
  deriving DecidableEq, Repr, Inhabited

/-- The preferences of a pod on the pods beside it: those it keeps away from. -/
structure Affinity where
  avoided : Option (Option (List WeightedTerm))
  deriving DecidableEq, Repr, Inhabited

namespace LabelRequirement

def toJson (r : LabelRequirement) : Json := .record [
  ("key", some (.str r.key)),
  ("operator", some (.str r.operator)),
  ("values", r.values.map Json.strings)]

def ofJson? (j : Json) : Option LabelRequirement := do
  let m ← j.readObject
  some {
    key := ← Json.lenient m "key" Json.readString ""
    operator := ← Json.lenient m "operator" Json.readString ""
    values := ← Json.optional m "values" (Json.readList Json.readString) }

end LabelRequirement

namespace AffinityTerm

def toJson (t : AffinityTerm) : Json := .record [
  ("labelSelector", t.requirements.map fun s => .record [
    ("matchExpressions", s.map fun l => .arr (l.map LabelRequirement.toJson))]),
  ("topologyKey", some (.str t.topologyKey))]

def selectorOfJson? (j : Json) : Option (Option (List LabelRequirement)) := do
  let m ← j.readObject
  Json.optional m "matchExpressions" (Json.readList LabelRequirement.ofJson?)

def ofJson? (j : Json) : Option AffinityTerm := do
  let m ← j.readObject
  some {
    requirements := ← Json.optional m "labelSelector" selectorOfJson?
    topologyKey := ← Json.lenient m "topologyKey" Json.readString "" }

end AffinityTerm

namespace WeightedTerm

def toJson (t : WeightedTerm) : Json := .record [
  ("podAffinityTerm", some t.term.toJson),
  ("weight", some (.int t.weight))]

def ofJson? (j : Json) : Option WeightedTerm := do
  let m ← j.readObject
  some {
    term := ← Json.lenient m "podAffinityTerm" AffinityTerm.ofJson? ⟨none, ""⟩
    weight := ← Json.lenient m "weight" Json.readInt32 0 }

end WeightedTerm

namespace Affinity

def toJson (a : Affinity) : Json := .record [
  ("podAntiAffinity", a.avoided.map fun p => .record [
    ("preferredDuringSchedulingIgnoredDuringExecution",
      p.map fun l => .arr (l.map WeightedTerm.toJson))])]

def avoidedOfJson? (j : Json) : Option (Option (List WeightedTerm)) := do
  let m ← j.readObject
  Json.optional m "preferredDuringSchedulingIgnoredDuringExecution"
    (Json.readList WeightedTerm.ofJson?)

def ofJson? (j : Json) : Option Affinity := do
  let m ← j.readObject
  some { avoided := ← Json.optional m "podAntiAffinity" avoidedOfJson? }

end Affinity

end NodeDeploy
