/-! # White space

The white space of a text is the characters with the Unicode property `White_Space`. Trimming takes
such characters off the ends and changes nothing else.

* `trimEnd_append_blank`: white space at the end never matters to `trimEnd`;
* `trimEnd_eq_self`: a text that ends in another character is left alone.
-/

namespace NodeDeploy.Text

/-- Whether a character has the property `White_Space`. -/
def isBlank (c : Char) : Bool :=
  let n := c.toNat
  (9 ≤ n && n ≤ 13) || n == 0x20 || n == 0x85 || n == 0xa0 || n == 0x1680 ||
  (0x2000 ≤ n && n ≤ 0x200a) || n == 0x2028 || n == 0x2029 || n == 0x202f || n == 0x205f ||
  n == 0x3000

def trimStart (cs : List Char) : List Char := cs.dropWhile isBlank

def trimEnd : List Char → List Char
  | [] => []
  | c :: rest =>
    match trimEnd rest with
    | [] => if isBlank c then [] else [c]
    | d :: ds => c :: d :: ds

def trim (cs : List Char) : List Char := trimEnd (trimStart cs)

def isBlankText (cs : List Char) : Bool := cs.all isBlank

theorem trimEnd_eq_nil_iff {cs : List Char} : trimEnd cs = [] ↔ isBlankText cs = true := by
  induction cs with
  | nil => simp [trimEnd, isBlankText]
  | cons c rest ih =>
    simp only [isBlankText, List.all_cons, Bool.and_eq_true] at ih ⊢
    rw [trimEnd]
    split <;> simp_all

theorem trimEnd_append_blank {cs bs : List Char} (h : isBlankText bs = true) :
    trimEnd (cs ++ bs) = trimEnd cs := by
  induction cs with
  | nil => simpa [trimEnd] using trimEnd_eq_nil_iff.2 h
  | cons c rest ih => rw [List.cons_append, trimEnd, trimEnd, ih]

theorem trimEnd_eq_self {cs : List Char} {c : Char} (h : isBlank c = false) :
    trimEnd (cs ++ [c]) = cs ++ [c] := by
  induction cs with
  | nil => simp [trimEnd, h]
  | cons d rest ih =>
    rw [List.cons_append, trimEnd, ih]
    split <;> simp_all

end NodeDeploy.Text

namespace NodeDeploy

def trimmed (s : String) : String := String.ofList (Text.trim s.toList)

def trimmedEnd (s : String) : String := String.ofList (Text.trimEnd s.toList)

def isBlankString (s : String) : Bool := Text.isBlankText s.toList

end NodeDeploy
