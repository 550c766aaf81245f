import NodeDeploy.Json.Basic
import NodeDeploy.Dict

/-! # Schemas

A schema describes the values that a member may have, for the cluster to check and for people to
read. The members of a record, and the names of those that are required, are listed in order of
their names.
-/

namespace NodeDeploy

/-- What a schema says of a value besides its shape. -/
structure SchemaNotes where
  description : Option String := none
  /-- Whether null stands for no value. -/
  nullable : Bool := false
  /-- What stands for a missing value. -/
  default : Option Json := none
  deriving Inhabited

/-- The values that a member may have. -/
inductive Schema where
  /-- Any string. -/
  | string (notes : SchemaNotes)
  /-- A timestamp. -/
  | time (notes : SchemaNotes)
  /-- One of some words. -/
  | word (notes : SchemaNotes) (words : List String)
  /-- Strings under any names. -/
  | dictionary (notes : SchemaNotes)
  /-- A list of values of one schema. -/
  | list (notes : SchemaNotes) (items : Schema)
  /-- A record of some members, each with whether it is required. -/
  | record (notes : SchemaNotes) (members : List (String × Bool × Schema))
  deriving Inhabited

namespace Schema

/-- A record without its members, with those that follow its title. -/
def recordJson (notes : SchemaNotes) (title : Option String) (properties : List (String × Json))
    (required : List String) : Json := .record [
  ("default", notes.default),
  ("description", notes.description.map .str),
  ("nullable", if notes.nullable then some (.bool true) else none),
  ("properties", some (.obj (Dict.ofList properties).entries)),
  ("required",
    if required.isEmpty then none
    else some (.strings (Dict.ofList (required.map fun n => (n, ()))).keys)),
  ("title", title.map .str),
  ("type", some (.str "object"))]

def requiredNames (members : List (String × Bool × Schema)) : List String :=
  members.filterMap fun m => if m.2.1 then some m.1 else none

mutual

/-- The JSON form of a schema, with a title if it is a record. -/
def toJson (title : Option String) : Schema → Json
  | .string n => .record [
      ("default", n.default),
      ("description", n.description.map .str),
      ("nullable", if n.nullable then some (.bool true) else none),
      ("type", some (.str "string"))]
  | .time n => .record [
      ("default", n.default),
      ("description", n.description.map .str),
      ("format", some (.str "date-time")),
      ("nullable", if n.nullable then some (.bool true) else none),
      ("type", some (.str "string"))]
  | .word n words => .record [
      ("default", n.default),
      ("description", n.description.map .str),
      ("enum", some (.strings words)),
      ("nullable", if n.nullable then some (.bool true) else none),
      ("type", some (.str "string"))]
  | .dictionary n => .record [
      ("additionalProperties", some (.obj [("type", .str "string")])),
      ("default", n.default),
      ("description", n.description.map .str),
      ("nullable", if n.nullable then some (.bool true) else none),
      ("type", some (.str "object"))]
  | .list n s => .record [
      ("default", n.default),
      ("description", n.description.map .str),
      ("items", some (toJson none s)),
      ("nullable", if n.nullable then some (.bool true) else none),
      ("type", some (.str "array"))]
  | .record n members =>
    recordJson n title (membersJson members) (requiredNames members)

def membersJson : List (String × Bool × Schema) → List (String × Json)
  | [] => []
  | (name, _, s) :: rest => (name, toJson none s) :: membersJson rest

end

end Schema

end NodeDeploy
