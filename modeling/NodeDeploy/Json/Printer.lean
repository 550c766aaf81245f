import NodeDeploy.Double.Shortest
import NodeDeploy.Json.Basic
import NodeDeploy.Text.Numeral
import NodeDeploy.Text.Quoted

/-! # JSON text

The compact text of a value: no blanks, members in their order, the five usual controls by their
letter, the other characters below the space by four hexadecimal digits, and everything else raw. A
double is written by its shortest decimal, and a garbled value as null.

* `Json.escapeChar` is the rule for one character;
* `Json.decimalChars` is the rule for the decimal of a double;
* `Json.text` is the text of a value.
-/

namespace NodeDeploy.Json

def escapeChar (c : Char) : List Char :=
  if c = '"' then ['\\', '"']
  else if c = '\\' then ['\\', '\\']
  else if c = '\n' then ['\\', 'n']
  else if c = '\r' then ['\\', 'r']
  else if c = '\t' then ['\\', 't']
  else if c = '\x08' then ['\\', 'b']
  else if c = '\x0c' then ['\\', 'f']
  else if c.toNat < 0x20 then
    ['\\', 'u', '0', '0', Text.hexDigit (c.toNat / 16), Text.hexDigit (c.toNat % 16)]
  else [c]

def stringChars (s : String) : List Char := '"' :: s.toList.flatMap escapeChar ++ ['"']

def intChars : Int → List Char
  | .ofNat n => Text.writeDigits n
  | .negSucc n => '-' :: Text.writeDigits (n + 1)

/-- The digits of a decimal with its trailing zeros moved into the exponent. -/
def trimZeros (d : Decimal) : List Char × Int :=
  let digits := Text.writeDigits d.digits
  let kept := (digits.reverse.dropWhile (· = '0')).reverse
  (kept, d.exponent + (digits.length - kept.length : Nat))

/-- A decimal that is not zero. It has a point with at least one digit on each side of it where this
takes at most sixteen digits before the point or four zeros behind it, and a signed exponent
otherwise. -/
def decimalChars (d : Decimal) : List Char :=
  let (digits, exponent) := trimZeros d
  let point := digits.length + exponent
  if 0 ≤ exponent ∧ point ≤ 16 then digits ++ List.replicate exponent.toNat '0' ++ ['.', '0']
  else if 0 < point ∧ point ≤ 16 then digits.take point.toNat ++ '.' :: digits.drop point.toNat
  else if -5 < point ∧ point ≤ 0 then
    '0' :: '.' :: List.replicate (-point).toNat '0' ++ digits
  else
    let part := digits.drop 1
    digits.take 1 ++ (if part.isEmpty then [] else '.' :: part) ++
      'e' :: (if 0 < point then ['+'] else []) ++ intChars (point - 1)

def realChars (x : Double) : List Char :=
  (if x.negative then ['-'] else []) ++
    if x.significand = 0 then ['0', '.', '0'] else decimalChars x.shortest

mutual

def chars : Json → List Char
  | .null => ['n', 'u', 'l', 'l']
  | .bool true => ['t', 'r', 'u', 'e']
  | .bool false => ['f', 'a', 'l', 's', 'e']
  | .int n => intChars n
  | .real x => realChars x
  | .str s => stringChars s
  | .arr items => '[' :: itemsChars items ++ [']']
  | .obj members => '\x7b' :: membersChars members ++ ['\x7d']
  | .garbled => ['n', 'u', 'l', 'l']

def itemsChars : List Json → List Char
  | [] => []
  | [j] => chars j
  | j :: k :: rest => chars j ++ ',' :: itemsChars (k :: rest)

def membersChars : List (String × Json) → List Char
  | [] => []
  | [(n, j)] => stringChars n ++ ':' :: chars j
  | (n, j) :: m :: rest => stringChars n ++ ':' :: chars j ++ ',' :: membersChars (m :: rest)

end

def text (j : Json) : String := String.ofList (chars j)

end NodeDeploy.Json
