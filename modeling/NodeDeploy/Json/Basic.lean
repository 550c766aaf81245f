import NodeDeploy.Double.Basic

/-! # JSON values

A JSON value keeps its members in order, repeated names included. Whole numbers are kept apart from
numbers written with a point or an exponent, since a reader of whole numbers takes only the former.
What keeps to the grammar of JSON but says nothing, such as a string with half of a surrogate pair
or a number that is too large, is garbled: it may stand where nobody looks.

* `Json.find?` gives the value of a member, the last one where a name is repeated;
* `Json.record` is the object of the members that are present;
* `Json.isSound` says that all parts of a value can be read.
-/

namespace NodeDeploy

/-- A JSON value. Whole numbers have at most 64 bits; `garbled` stands for what has no value. -/
inductive Json where
  | null
  | bool (b : Bool)
  | int (n : Int)
  | real (x : Double)
  | str (s : String)
  | arr (items : List Json)
  | obj (members : List (String × Json))
  | garbled
  deriving Repr, Inhabited

namespace Json

def valuesOf (name : String) : List (String × Json) → List Json
  | [] => []
  | (k, v) :: rest => if k = name then v :: valuesOf name rest else valuesOf name rest

/-- The value of the last member with a name. -/
def lookup (name : String) (members : List (String × Json)) : Option Json :=
  (valuesOf name members).getLast?

def find? (name : String) : Json → Option Json
  | .obj members => lookup name members
  | _ => none

/-- The object of those members that are present, in order. -/
def record (members : List (String × Option Json)) : Json :=
  .obj (members.filterMap fun (k, v) => v.map fun w => (k, w))

def strings (l : List String) : Json := .arr (l.map .str)

def nat (n : Nat) : Json := .int n

def orNull : Option Json → Json
  | some j => j
  | none => .null

/-- How deep values may be nested where all of them are read. -/
def depthLimit : Nat := 127

mutual

/-- Whether nothing in a value is garbled, and at most `depth` values are nested. -/
def isSoundWithin (depth : Nat) : Json → Bool
  | .garbled => false
  | .arr items =>
    match depth with
    | 0 => false
    | depth + 1 => itemsSoundWithin depth items
  | .obj members =>
    match depth with
    | 0 => false
    | depth + 1 => membersSoundWithin depth members
  | _ => true

def itemsSoundWithin (depth : Nat) : List Json → Bool
  | [] => true
  | j :: rest => isSoundWithin depth j && itemsSoundWithin depth rest

def membersSoundWithin (depth : Nat) : List (String × Json) → Bool
  | [] => true
  | (_, j) :: rest => isSoundWithin depth j && membersSoundWithin depth rest

end

/-- Whether all parts of a value can be read. -/
def isSound (j : Json) : Bool := isSoundWithin depthLimit j

end Json

end NodeDeploy
