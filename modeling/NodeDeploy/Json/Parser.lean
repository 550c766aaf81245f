import NodeDeploy.Json.Basic
import NodeDeploy.Text.Numeral

/-! # Reading JSON text

A text is read as one value with blanks around it, by the grammar of RFC 8259: no control character
stands raw in a string, and no number has a leading zero. A string with an escaped surrogate that is
not one of a pair is garbled, and so is an object with such a name in it. Numbers are doubles unless
they are whole and have at most 64 bits.

Each step consumes input, so as many steps as there are characters are always enough; the number of
steps left is the argument that the recursion runs on.

* `Json.numberOf` is the rule for numbers;
* `Json.parse?` reads a whole text.
-/

namespace NodeDeploy.Json

def isSpace (c : Char) : Bool := c = ' ' || c = '\n' || c = '\r' || c = '\t'

def skip (cs : List Char) : List Char := cs.dropWhile isSpace

def hexValue? (c : Char) : Option Nat :=
  let n := c.toNat
  if 48 ≤ n ∧ n ≤ 57 then some (n - 48)
  else if 97 ≤ n ∧ n ≤ 102 then some (n - 87)
  else if 65 ≤ n ∧ n ≤ 70 then some (n - 55)
  else none

def hex4? (a b c d : Char) : Option Nat := do
  some ((((← hexValue? a) * 16 + (← hexValue? b)) * 16 + (← hexValue? c)) * 16 + (← hexValue? d))

def escaped? (c : Char) : Option Char :=
  if c = '"' ∨ c = '\\' ∨ c = '/' then some c
  else if c = 'n' then some '\n'
  else if c = 'r' then some '\r'
  else if c = 't' then some '\t'
  else if c = 'b' then some '\x08'
  else if c = 'f' then some '\x0c'
  else none

/-- The character that an escaped unit stands for, alone or as the first of a pair, and the text
behind it. -/
def unit? (n : Nat) (rest : List Char) : Option (Char × List Char) :=
  if 0xdc00 ≤ n ∧ n ≤ 0xdfff then none
  else if 0xd800 ≤ n ∧ n ≤ 0xdbff then
    match rest with
    | '\\' :: 'u' :: a :: b :: d :: e :: rest => do
      let m ← hex4? a b d e
      if 0xdc00 ≤ m ∧ m ≤ 0xdfff then
        some (Char.ofNat (0x10000 + (n - 0xd800) * 0x400 + (m - 0xdc00)), rest)
      else none
    | _ => none
  else some (Char.ofNat n, rest)

/-- Reads the rest of a string, behind its opening quote; a garbled one has no characters. -/
def stringRest? (steps : Nat) (cs : List Char) : Option (Option (List Char) × List Char) :=
  match steps, cs with
  | 0, _ => none
  | _, [] => none
  | steps + 1, c :: rest =>
    if c = '"' then some (some [], rest)
    else if c = '\\' then
      match rest with
      | 'u' :: a :: b :: d :: e :: rest => do
        let n ← hex4? a b d e
        match unit? n rest with
        | some (ch, rest) =>
          let (tail, rest) ← stringRest? steps rest
          some (tail.map (ch :: ·), rest)
        | none =>
          let (_, rest) ← stringRest? steps rest
          some (none, rest)
      | e :: rest => do
        let ch ← escaped? e
        let (tail, rest) ← stringRest? steps rest
        some (tail.map (ch :: ·), rest)
      | [] => none
    else if c.toNat < 0x20 then none
    else do
      let (tail, rest) ← stringRest? steps rest
      some (tail.map (c :: ·), rest)

/-- Reads a string, behind its opening quote, unless it is garbled. -/
def string? (cs : List Char) : Option (Option String × List Char) :=
  (stringRest? (cs.length + 1) cs).map fun (s, rest) => (s.map String.ofList, rest)

def ofString : Option String → Json
  | some s => .str s
  | none => .garbled

/-- The value of an object, garbled if one of its names is. -/
def ofMembers (members : List (Option String × Json)) : Json :=
  match members.mapM fun (name, j) => name.map fun n => (n, j) with
  | some members => .obj members
  | none => .garbled

def digits (cs : List Char) : List Char × List Char :=
  (cs.takeWhile Text.isDigit, cs.dropWhile Text.isDigit)

def fraction? : List Char → Option (Option (List Char) × List Char)
  | '.' :: cs =>
    match digits cs with
    | ([], _) => none
    | (ds, rest) => some (some ds, rest)
  | cs => some (none, cs)

def exponent? : List Char → Option (Option Int × List Char)
  | [] => some (none, [])
  | c :: cs =>
    if c = 'e' ∨ c = 'E' then
      let (sign, cs) : Int × List Char :=
        match cs with
        | '-' :: cs => (-1, cs)
        | '+' :: cs => (1, cs)
        | cs => (1, cs)
      match digits cs with
      | ([], _) => none
      | (ds, rest) => some (some (sign * Text.digitsValue 0 ds), rest)
    else some (none, c :: cs)

/-- Takes digits behind those of `n` as long as the number has at most 64 bits. -/
def leading (n : Nat) : List Char → Nat × List Char
  | [] => (n, [])
  | c :: cs =>
    let m := n * 10 + Text.digitValue c
    if m < Nat.pow 2 64 then leading m cs else (n, c :: cs)

/-- A number by its sign, its digits before and behind the point, and its exponent. Of the digits
those count that fit 64 bits. A number that is not whole, or has more bits, is scaled as a
double. -/
def numberOf (negative : Bool) (whole part : List Char) (exponent : Option Int) : Json :=
  let (n, dropped) := leading 0 whole
  let (m, unread) := leading n part
  let isWhole := dropped.isEmpty && part.isEmpty && exponent.isNone
  if isWhole && !negative then .int n
  else if isWhole && 0 < n && n ≤ Nat.pow 2 63 then .int (-n)
  else
    let scale := exponent.getD 0 + dropped.length - (part.length - unread.length : Nat)
    match (Double.round? negative m 1).bind (·.scale? scale) with
    | some x => .real x
    | none => .garbled

def unsigned? (negative : Bool) (cs : List Char) : Option (Json × List Char) := do
  let (whole, cs) := digits cs
  if whole.isEmpty || (whole.head? = some '0' && 1 < whole.length) then none
  else
    let (part, cs) ← fraction? cs
    let (exponent, cs) ← exponent? cs
    some (numberOf negative whole (part.getD []) exponent, cs)

def number? : List Char → Option (Json × List Char)
  | '-' :: cs => unsigned? true cs
  | cs => unsigned? false cs

mutual

def value? (steps : Nat) (cs : List Char) : Option (Json × List Char) :=
  match steps with
  | 0 => none
  | steps + 1 =>
    match skip cs with
    | [] => none
    | 'n' :: 'u' :: 'l' :: 'l' :: rest => some (.null, rest)
    | 't' :: 'r' :: 'u' :: 'e' :: rest => some (.bool true, rest)
    | 'f' :: 'a' :: 'l' :: 's' :: 'e' :: rest => some (.bool false, rest)
    | '"' :: rest => (string? rest).map fun (s, rest) => (ofString s, rest)
    | '[' :: rest =>
      match skip rest with
      | ']' :: rest => some (.arr [], rest)
      | rest => (items? steps rest).map fun (items, rest) => (.arr items, rest)
    | '\x7b' :: rest =>
      match skip rest with
      | '\x7d' :: rest => some (.obj [], rest)
      | rest => (members? steps rest).map fun (members, rest) => (ofMembers members, rest)
    | rest => number? rest

def items? (steps : Nat) (cs : List Char) : Option (List Json × List Char) :=
  match steps with
  | 0 => none
  | steps + 1 => do
    let (j, rest) ← value? steps cs
    match skip rest with
    | ']' :: rest => some ([j], rest)
    | ',' :: rest => do
      let (items, rest) ← items? steps rest
      some (j :: items, rest)
    | _ => none

def members? (steps : Nat) (cs : List Char) :
    Option (List (Option String × Json) × List Char) :=
  match steps with
  | 0 => none
  | steps + 1 =>
    match skip cs with
    | '"' :: rest => do
      let (name, rest) ← string? rest
      match skip rest with
      | ':' :: rest => do
        let (j, rest) ← value? steps rest
        match skip rest with
        | '\x7d' :: rest => some ([(name, j)], rest)
        | ',' :: rest => do
          let (members, rest) ← members? steps rest
          some ((name, j) :: members, rest)
        | _ => none
      | _ => none
    | _ => none

end

def parse? (s : String) : Option Json := do
  let cs := s.toList
  let (j, rest) ← value? (2 * cs.length + 2) cs
  if (skip rest).isEmpty then some j else none

end NodeDeploy.Json
