/-! # Decimal numerals

Reading and writing natural numbers in ASCII digits.

* `readDigits?_eq_none_iff`: the texts that are no numeral are the empty one and those with a
  character that is no digit.
-/

namespace NodeDeploy.Text

/-- Whether a character is one of the ten ASCII digits. -/
def isDigit (c : Char) : Bool := 48 ≤ c.toNat && c.toNat ≤ 57

def digitValue (c : Char) : Nat := c.toNat - 48

/-- The value of a run of digits, read behind digits of value `n`. -/
def digitsValue (n : Nat) (cs : List Char) : Nat :=
  cs.foldl (fun n c => n * 10 + digitValue c) n

def readDigits? (cs : List Char) : Option Nat :=
  if cs.isEmpty || !cs.all isDigit then none else some (digitsValue 0 cs)

theorem readDigits?_eq_none_iff {cs : List Char} :
    readDigits? cs = none ↔ cs = [] ∨ ∃ c ∈ cs, isDigit c = false := by
  by_cases h : cs = [] <;> simp [readDigits?, h]

/-- The value of digits that may have a plus sign before them. -/
def readUnsigned? : List Char → Option Nat
  | '+' :: cs => readDigits? cs
  | cs => readDigits? cs

def writeDigits (n : Nat) : List Char :=
  if _h : n < 10 then [Char.ofNat (48 + n)]
  else writeDigits (n / 10) ++ [Char.ofNat (48 + n % 10)]
termination_by n
decreasing_by omega

def padDigits (width n : Nat) : List Char :=
  let ds := writeDigits n
  List.replicate (width - ds.length) '0' ++ ds

end NodeDeploy.Text

namespace NodeDeploy

def decimal (n : Nat) : String := String.ofList (Text.writeDigits n)

def signedDecimal : Int → String
  | .ofNat n => decimal n
  | .negSucc n => "-" ++ decimal (n + 1)

end NodeDeploy
