import NodeDeploy.Json.Basic
import NodeDeploy.Json.Printer
import NodeDeploy.Text.Blank

/-! # YAML text

The block form of a value: a member or an item a line, nested values indented by two blanks, the
items of a list under the name of its member. A string is plain where it reads back as itself, and
quoted where it would read as something else.

* `Yaml.isPlain` says which strings are plain;
* `Yaml.text` is the text of a value.
-/

namespace NodeDeploy.Yaml

/-- The words that read as a truth value or as null. -/
def reservedWords : List String := ["", "~", "null", "Null", "NULL", "true", "True", "TRUE",
  "false", "False", "FALSE", "yes", "Yes", "YES", "no", "No", "NO", "on", "On", "ON", "off", "Off",
  "OFF", "y", "Y", "n", "N"]

def isIndicator (c : Char) : Bool :=
  "-?:,[]\x7b\x7d#&*!|>'\"%@\x60".toList.contains c

/-- Whether a text reads as a number: it starts like one and has nothing but its characters. -/
def readsAsNumber (cs : List Char) : Bool :=
  let isMark (c : Char) : Bool := "+-.eExXoOaAbBcCdDfF_".toList.contains c
  cs.any Text.isDigit && cs.all (fun c => Text.isDigit c || isMark c) &&
    (cs.head?.any fun c => Text.isDigit c || c = '+' || c = '-' || c = '.')

/-- Whether a text has what ends a plain string: a colon or a number sign that a blank sets off. -/
def hasBreak : List Char → Bool
  | [] => false
  | [':'] => true
  | ':' :: ' ' :: _ => true
  | ' ' :: '#' :: _ => true
  | _ :: rest => hasBreak rest

/-- Whether a text stays on one line with nothing hidden in it. -/
def isOneLine (cs : List Char) : Bool := cs.all fun c => 0x20 ≤ c.toNat && c.toNat != 0x7f

def isPlain (s : String) : Bool :=
  let cs := s.toList
  !reservedWords.contains s && isOneLine cs && !readsAsNumber cs && !hasBreak cs &&
    !(cs.head?.any fun c => isIndicator c || Text.isBlank c) && !cs.getLast?.any Text.isBlank

def scalar (s : String) : String :=
  if isPlain s then s
  else if isOneLine s.toList then
    "'" ++ String.ofList (s.toList.flatMap fun c => if c = '\'' then [c, c] else [c]) ++ "'"
  else String.ofList (Json.stringChars s)

def indent (depth : Nat) : String := String.ofList (List.replicate (2 * depth) ' ')

mutual

/-- What follows the name of a member: a value on the same line, or lines below it. -/
def afterName (depth : Nat) : Json → String
  | .arr [] => " []\n"
  | .arr (j :: rest) => "\n" ++ items depth (j :: rest)
  | .obj [] => " \x7b\x7d\n"
  | .obj (m :: rest) => "\n" ++ members (depth + 1) (m :: rest)
  | .str s => " " ++ scalar s ++ "\n"
  | j => " " ++ j.text ++ "\n"

/-- What follows the dash of an item: its first line continues the line of the dash. -/
def afterDash (depth : Nat) : Json → String
  | .arr l => " " ++ (Json.arr l).text ++ "\n"
  | .obj [] => " \x7b\x7d\n"
  | .obj ((name, j) :: rest) =>
    " " ++ scalar name ++ ":" ++ afterName (depth + 1) j ++ members (depth + 1) rest
  | .str s => " " ++ scalar s ++ "\n"
  | j => " " ++ j.text ++ "\n"

def items (depth : Nat) : List Json → String
  | [] => ""
  | j :: rest => indent depth ++ "-" ++ afterDash depth j ++ items depth rest

def members (depth : Nat) : List (String × Json) → String
  | [] => ""
  | (name, j) :: rest =>
    indent depth ++ scalar name ++ ":" ++ afterName depth j ++ members depth rest

end

def text : Json → String
  | .obj [] => "\x7b\x7d\n"
  | .obj (m :: rest) => members 0 (m :: rest)
  | .arr [] => "[]\n"
  | .arr (j :: rest) => items 0 (j :: rest)
  | .str s => scalar s ++ "\n"
  | j => j.text ++ "\n"

end NodeDeploy.Yaml
