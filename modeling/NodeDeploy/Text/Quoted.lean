import NodeDeploy.Text.Printable

/-! # Quoted text

A quoted text stands between double quotes and names what would not show: a quote and a backslash
take a backslash, the usual controls have their letter, and every other character that does not
print, or that would join the character before it, is written by its code point.
-/

namespace NodeDeploy.Text

def hexDigit (n : Nat) : Char :=
  if n < 10 then Char.ofNat (48 + n) else Char.ofNat (87 + n)

def hexDigits (n : Nat) : List Char :=
  if _h : n < 16 then [hexDigit n] else hexDigits (n / 16) ++ [hexDigit (n % 16)]
termination_by n
decreasing_by omega

def quoteChar (c : Char) : List Char :=
  if c = '"' then ['\\', '"']
  else if c = '\\' then ['\\', '\\']
  else if c = '\n' then ['\\', 'n']
  else if c = '\r' then ['\\', 'r']
  else if c = '\t' then ['\\', 't']
  else if c = '\x00' then ['\\', '0']
  else if isPrintable c && !isExtending c then [c]
  else ['\\', 'u', '\x7b'] ++ hexDigits c.toNat ++ ['\x7d']

def quoteChars (cs : List Char) : List Char := cs.flatMap quoteChar

end NodeDeploy.Text

namespace NodeDeploy

def quoted (s : String) : String := String.ofList ('"' :: Text.quoteChars s.toList ++ ['"'])

/-- Several strings between quotes, in brackets. -/
def quotedList (l : List String) : String :=
  "[" ++ String.intercalate ", " (l.map quoted) ++ "]"

def quotedOption : Option String → String
  | none => "None"
  | some s => "Some(" ++ quoted s ++ ")"

end NodeDeploy
