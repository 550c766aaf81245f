import NodeDeploy.Dict
import NodeDeploy.Json.Basic

/-! # Reading values from JSON

Readers take a JSON value to a value of a type, or refuse it. There are two kinds of readers of
records: `readObject` takes any object, where the last member with a name counts although all must
make sense; `readRecord` takes no object that repeats a member it knows, but also a list of values.
A member is asked for in one of four ways, which differ in what stands for a missing value:

* `required`: nothing does;
* `optional`: absence and null, giving `none`;
* `defaulted`: absence alone, giving a default;
* `lenient`: absence and null, giving a default.
-/

namespace NodeDeploy.Json

def readString : Json → Option String
  | .str s => some s
  | _ => none

def readBool : Json → Option Bool
  | .bool b => some b
  | _ => none

/-- Reads a whole number between two bounds, both included. -/
def readInt (low high : Int) : Json → Option Int
  | .int n => if low ≤ n ∧ n ≤ high then some n else none
  | _ => none

def readInt32 : Json → Option Int := readInt (-0x80000000) 0x7fffffff

def readInt64 : Json → Option Int := readInt (-0x8000000000000000) 0x7fffffffffffffff

/-- Reads a whole number from 0 up to a bound. -/
def readNat (high : Nat) (j : Json) : Option Nat := (readInt 0 high j).map Int.toNat

def readList {α : Type} (read : Json → Option α) : Json → Option (List α)
  | .arr items => items.mapM read
  | _ => none

def readDict {α : Type} (read : Json → Option α) : Json → Option (Dict String α)
  | .obj members =>
    (members.mapM fun (m : String × Json) => (read m.2).map fun x => (m.1, x)).map Dict.ofList
  | _ => none

/-- Reads one of several words; a word may also be the one name of an object, with null. -/
def readWord {α : Type} (meaning : String → Option α) : Json → Option α
  | .str s => meaning s
  | .obj [(s, .null)] => meaning s
  | _ => none

def readObject : Json → Option (List (String × Json))
  | .obj members => some members
  | _ => none

/-- The members of a record: an object that has each of `names` at most once, or the list of its
first values in the order of `names`, at least `needed` of them. -/
def readRecord (names : List String) (needed : Nat) : Json → Option (List (String × Json))
  | .obj members =>
    if names.all fun name => (valuesOf name members).length ≤ 1 then some members else none
  | .arr items =>
    if needed ≤ items.length ∧ items.length ≤ names.length then some (names.zip items) else none
  | _ => none

/-- Reads several values of a member, of which the last one counts. -/
def readLast {α : Type} (read : Json → Option α) (values : List Json) : Option (Option α) :=
  (values.mapM read).map List.getLast?

def required {α : Type} (members : List (String × Json)) (name : String)
    (read : Json → Option α) : Option α :=
  (readLast read (valuesOf name members)).bind id

def readNullable {α : Type} (read : Json → Option α) : Json → Option (Option α)
  | .null => some none
  | j => (read j).map some

/-- A member that may be absent or null. -/
def optional {α : Type} (members : List (String × Json)) (name : String)
    (read : Json → Option α) : Option (Option α) :=
  (readLast (readNullable read) (valuesOf name members)).map fun x => x.bind id

/-- A member that may be absent, with a value for that case. -/
def defaulted {α : Type} (members : List (String × Json)) (name : String)
    (read : Json → Option α) (default : α) : Option α :=
  (readLast read (valuesOf name members)).map fun x => x.getD default

/-- A member that may be absent or null, with a value for that case. -/
def lenient {α : Type} (members : List (String × Json)) (name : String)
    (read : Json → Option α) (default : α) : Option α :=
  (optional members name read).map fun x => x.getD default

def ofDict {α : Type} (write : α → Json) (d : Dict String α) : Json :=
  .obj (d.entries.map fun (k, v) => (k, write v))

def ofStrings (d : Dict String String) : Json := ofDict .str d

end NodeDeploy.Json
