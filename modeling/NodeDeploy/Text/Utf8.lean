/-! # UTF-8

Characters as bytes, and bytes as characters. Bytes that are no UTF-8 are read as the replacement
character, one for each longest run of bytes that starts a character but does not finish it.

* `readByte` reads one byte in the light of those before it, and `ofUtf8` a whole text.
-/

namespace NodeDeploy.Text

def replacement : Char := Char.ofNat 0xfffd

def charBytes (c : Char) : List UInt8 :=
  let n := c.toNat
  let tail (shift : Nat) : UInt8 := UInt8.ofNat (0x80 + (n >>> shift) % 64)
  if n < 0x80 then [UInt8.ofNat n]
  else if n < 0x800 then [UInt8.ofNat (0xc0 + n / 64), tail 0]
  else if n < 0x10000 then [UInt8.ofNat (0xe0 + n / 4096), tail 6, tail 0]
  else [UInt8.ofNat (0xf0 + n / 262144), tail 12, tail 6, tail 0]

def utf8 (cs : List Char) : List UInt8 := cs.flatMap charBytes

/-- A character of which some bytes are read: its bits so far, how many bytes it still needs, and
the range of the next one. -/
structure Partial where
  bits : Nat
  owed : Nat
  low : Nat
  high : Nat
  deriving DecidableEq, Repr

/-- A byte that does not continue a character: it is one, starts one, or is none. -/
def readFirst (b : Nat) : List Char × Option Partial :=
  if b < 0x80 then ([Char.ofNat b], none)
  else if 0xc2 ≤ b ∧ b ≤ 0xdf then ([], some ⟨b - 0xc0, 1, 0x80, 0xbf⟩)
  else if b = 0xe0 then ([], some ⟨0, 2, 0xa0, 0xbf⟩)
  else if b = 0xed then ([], some ⟨0xd, 2, 0x80, 0x9f⟩)
  else if 0xe1 ≤ b ∧ b ≤ 0xef then ([], some ⟨b - 0xe0, 2, 0x80, 0xbf⟩)
  else if b = 0xf0 then ([], some ⟨0, 3, 0x90, 0xbf⟩)
  else if b = 0xf4 then ([], some ⟨4, 3, 0x80, 0x8f⟩)
  else if 0xf1 ≤ b ∧ b ≤ 0xf3 then ([], some ⟨b - 0xf0, 3, 0x80, 0xbf⟩)
  else ([replacement], none)

/-- Reads one byte: the characters it settles and the character it leaves open. -/
def readByte (pending : Option Partial) (b : UInt8) : List Char × Option Partial :=
  let n := b.toNat
  match pending with
  | none => readFirst n
  | some p =>
    if p.low ≤ n ∧ n ≤ p.high then
      let bits := p.bits * 64 + (n - 0x80)
      if p.owed ≤ 1 then ([Char.ofNat bits], none)
      else ([], some ⟨bits, p.owed - 1, 0x80, 0xbf⟩)
    else
      let (chars, next) := readFirst n
      (replacement :: chars, next)

def readBytes (pending : Option Partial) : List UInt8 → List Char
  | [] => if pending.isSome then [replacement] else []
  | b :: bs =>
    let (chars, next) := readByte pending b
    chars ++ readBytes next bs

/-- The text of some bytes, with replacement characters for what is no UTF-8. -/
def ofUtf8 (bs : List UInt8) : List Char := readBytes none bs

end NodeDeploy.Text

namespace NodeDeploy

def stringBytes (s : String) : List UInt8 := Text.utf8 s.toList

def stringOfBytes (bs : List UInt8) : String := String.ofList (Text.ofUtf8 bs)

end NodeDeploy
