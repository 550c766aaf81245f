import NodeDeploy.Text.Blank
import NodeDeploy.Time.Instant

/-! # Timestamps in the form of RFC 3339

Writing gives UTC with the letter `Z` and 0, 3, 6 or 9 digits of a second, the fewest that lose
nothing. Reading takes any offset and is lenient in blanks: they may stand around each part, a blank
may stand for the letter between date and time, and the word `UTC` for the offset.

* `Instant.text` writes, `Instant.wholeText` drops the fraction, `Instant.read?` reads.
-/

namespace NodeDeploy

namespace Rfc3339

/-- A year of four digits; one that needs more, or is before year 0, has a sign. -/
def yearChars (year : Int) : List Char :=
  if 0 ≤ year ∧ year ≤ 9999 then Text.padDigits 4 year.toNat
  else (if year < 0 then '-' else '+') :: Text.padDigits 4 year.natAbs

/-- The fraction of a second in the fewest groups of three digits. -/
def fractionChars (nanos : Nat) : List Char :=
  if nanos = 0 then []
  else if nanos % 1000000 = 0 then '.' :: Text.padDigits 3 (nanos / 1000000)
  else if nanos % 1000 = 0 then '.' :: Text.padDigits 6 (nanos / 1000)
  else '.' :: Text.padDigits 9 nanos

/-- Date and time to the second; a leap second is the sixtieth. -/
def secondChars (t : Instant) : List Char :=
  let d := t.date
  let s := t.secondOfDay
  let leap := if t.nanos < 1000000000 then 0 else 1
  yearChars d.year ++ '-' :: Text.padDigits 2 d.month ++ '-' :: Text.padDigits 2 d.day ++ 'T' ::
    Text.padDigits 2 (s / 3600) ++ ':' :: Text.padDigits 2 (s / 60 % 60) ++ ':' ::
    Text.padDigits 2 (s % 60 + leap)

/-- Reads between one and `most` digits. -/
def number? (most : Nat) (cs : List Char) : Option (Nat × List Char) :=
  let ds := (cs.take most).takeWhile Text.isDigit
  (Text.readDigits? ds).map fun n => (n, cs.drop ds.length)

/-- Reads digits after blanks. -/
def field? (most : Nat) (cs : List Char) : Option (Nat × List Char) :=
  number? most (Text.trimStart cs)

/-- Reads a year: four digits, or any number of them after a sign. -/
def year? (cs : List Char) : Option (Int × List Char) :=
  match Text.trimStart cs with
  | '-' :: rest => (number? rest.length rest).map fun (n, rest) => (-(n : Int), rest)
  | '+' :: rest => (number? rest.length rest).map fun (n, rest) => ((n : Int), rest)
  | rest => (number? 4 rest).map fun (n, rest) => ((n : Int), rest)

/-- Reads one given character, which blanks may precede. -/
def mark? (m : Char) (cs : List Char) : Option (List Char) :=
  match Text.trimStart cs with
  | c :: rest => if c = m then some rest else none
  | [] => none

/-- Reads a fraction of a second, if there is one; digits after the ninth do not count. -/
def fraction? : List Char → Option (Nat × List Char)
  | '.' :: cs => do
    let (n, rest) ← number? 9 cs
    let used := cs.length - rest.length
    some (n * Nat.pow 10 (9 - used), rest.dropWhile Text.isDigit)
  | cs => some (0, cs)

def offset? (cs : List Char) : Option (Int × List Char) :=
  match cs with
  | 'Z' :: rest => some (0, rest)
  | 'z' :: rest => some (0, rest)
  | [] => none
  | c :: rest =>
    let word := String.ofList ((cs.take 3).map Char.toUpper)
    if word = "UTC" then some (0, cs.drop 3)
    else
      let sign? : Option Int :=
        if c = '+' then some 1
        else if c = '-' ∨ c = Char.ofNat 0x2212 then some (-1)
        else none
      match sign?, rest with
      | some sign, h₁ :: h₂ :: rest =>
        match Text.readDigits? [h₁, h₂],
          rest.dropWhile fun c => c = ':' || Text.isBlank c with
        | some hours, m₁ :: m₂ :: rest =>
          match Text.readDigits? [m₁, m₂] with
          | some minutes =>
            if minutes < 60 ∧ hours < 24 then
              some (sign * (hours * 3600 + minutes * 60 : Nat), rest)
            else none
          | none => none
        | _, _ => none
      | _, _ => none

def inYearRange (year : Int) : Bool := -262143 ≤ year && year ≤ 262142

def read? (cs : List Char) : Option Instant := do
  let (year, cs) ← year? cs
  let cs ← mark? '-' cs
  let (month, cs) ← field? 2 cs
  let cs ← mark? '-' cs
  let (day, cs) ← field? 2 cs
  let cs ← match cs with
    | c :: rest => if c = 'T' ∨ c = 't' ∨ c = ' ' then some rest else none
    | [] => none
  let (hour, cs) ← field? 2 cs
  let cs ← mark? ':' cs
  let (minute, cs) ← field? 2 cs
  let cs ← mark? ':' cs
  let (second, cs) ← field? 2 cs
  let (nanos, cs) ← fraction? cs
  let (offset, cs) ← offset? (Text.trimStart cs)
  let date : Date := ⟨year, month, day⟩
  if !Text.isBlankText cs || !inYearRange year || !date.isValid || 23 < hour || 59 < minute ||
      60 < second then none
  else
    let leap := if second = 60 then 1 else 0
    let local_ := Instant.ofDate date hour minute (second - leap) (nanos + leap * 1000000000)
    let utc : Instant := ⟨local_.seconds - offset, local_.nanos⟩
    if inYearRange utc.date.year then some utc else none

end Rfc3339

namespace Instant

/-- A timestamp with as many digits of a second as it needs. -/
def text (t : Instant) : String :=
  String.ofList (Rfc3339.secondChars t ++ Rfc3339.fractionChars (t.nanos % 1000000000) ++ ['Z'])

def wholeText (t : Instant) : String := String.ofList (Rfc3339.secondChars t ++ ['Z'])

def read? (s : String) : Option Instant := Rfc3339.read? s.toList

end Instant

end NodeDeploy
