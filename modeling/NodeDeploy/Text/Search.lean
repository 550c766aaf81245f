/-! # Searching in a text

* `cut? marker cs` finds the first occurrence of a marker and gives the text before and after it;
* `cut?_eq_some_imp` says that the two parts and the marker make up the text again;
* `pieces` are the parts of a text between separators;
* `between` cuts a part out of a text by the positions of its bytes.
-/

namespace NodeDeploy.Text

def after? : List Char → List Char → Option (List Char)
  | [], cs => some cs
  | _ :: _, [] => none
  | m :: ms, c :: cs => if m = c then after? ms cs else none

theorem after?_eq_some {ms cs rest : List Char} (h : after? ms cs = some rest) :
    cs = ms ++ rest := by
  induction ms generalizing cs with
  | nil => simpa [after?] using h
  | cons m ms ih =>
    cases cs with
    | nil => simp [after?] at h
    | cons c cs =>
      rw [after?] at h
      split at h
      · next hmc => subst hmc; rw [ih h]; rfl
      · simp at h

theorem after?_append (ms rest : List Char) : after? ms (ms ++ rest) = some rest := by
  induction ms with
  | nil => rfl
  | cons m ms ih => simp [after?, ih]

/-- The text before and after the first occurrence of `marker`. -/
def cut? (marker : List Char) : List Char → Option (List Char × List Char)
  | [] => if marker.isEmpty then some ([], []) else none
  | c :: cs =>
    match after? marker (c :: cs) with
    | some rest => some ([], rest)
    | none => (cut? marker cs).map fun (before, rest) => (c :: before, rest)

theorem cut?_eq_some_imp {marker cs before rest : List Char}
    (h : cut? marker cs = some (before, rest)) : cs = before ++ marker ++ rest := by
  induction cs generalizing before rest with
  | nil => cases marker <;> simp_all [cut?]
  | cons c cs ih =>
    rw [cut?] at h
    split at h
    · next ha =>
      simp only [Option.some.injEq, Prod.mk.injEq] at h
      obtain ⟨rfl, rfl⟩ := h
      simpa using after?_eq_some ha
    · obtain ⟨⟨b, r⟩, hb, he⟩ := Option.map_eq_some_iff.1 h
      simp only [Prod.mk.injEq] at he
      obtain ⟨rfl, rfl⟩ := he
      simp [ih hb]

def occurs (marker cs : List Char) : Bool := (cut? marker cs).isSome

def startsWith (marker cs : List Char) : Bool := (after? marker cs).isSome

/-- The parts of a text between separators, empty ones included. -/
def split (separator : Char) : List Char → List (List Char)
  | [] => [[]]
  | c :: rest =>
    if c = separator then [] :: split separator rest
    else
      match split separator rest with
      | p :: ps => (c :: p) :: ps
      | [] => [[c]]

/-- The parts of a text between separators that are not empty. -/
def pieces (separator : Char) (cs : List Char) : List (List Char) :=
  (split separator cs).filter fun p => !p.isEmpty

/-- The characters that start from byte `low` on and before byte `high`, of a text that starts at
byte `position`. -/
def between (low high position : Nat) : List Char → List Char
  | [] => []
  | c :: rest =>
    let others := between low high (position + c.utf8Size) rest
    if low ≤ position && position < high then c :: others else others

/-- The characters that start from byte `low` on. -/
def behind (low : Nat) (cs : List Char) : List Char :=
  between low (String.ofList cs).utf8ByteSize 0 cs

end NodeDeploy.Text

namespace NodeDeploy

/-- Whether `part` occurs in `s`; the empty string occurs in every string. -/
def occursIn (part s : String) : Bool := Text.occurs part.toList s.toList

end NodeDeploy
