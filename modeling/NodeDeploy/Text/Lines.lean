/-! # Lines

A line ends at a line feed, and a carriage return just before the line feed belongs to the ending.
No other character ends a line, and a final line ending is not followed by an empty line.
-/

namespace NodeDeploy.Text

def dropReturn : List Char → List Char
  | [] => []
  | ['\r'] => []
  | c :: rest => c :: dropReturn rest

/-- Cuts at the first line feed: the text before it and, if there is one, the text after it. -/
def cutLine : List Char → List Char × Option (List Char)
  | [] => ([], none)
  | c :: rest =>
    if c = '\n' then ([], some rest)
    else
      let (line, after) := cutLine rest
      (c :: line, after)

theorem length_cutLine_lt {cs line after : List Char} (h : cutLine cs = (line, some after)) :
    after.length < cs.length := by
  induction cs generalizing line after with
  | nil => simp [cutLine] at h
  | cons c rest ih =>
    rw [cutLine] at h
    split at h
    · simp_all
    · cases hr : cutLine rest with
      | mk l a =>
        rw [hr] at h
        simp only [Prod.mk.injEq] at h
        obtain ⟨_, rfl⟩ := h
        exact Nat.lt_succ_of_lt (ih hr)

def lines (cs : List Char) : List (List Char) :=
  match cs with
  | [] => []
  | c :: rest =>
    match _h : cutLine (c :: rest) with
    | (line, some after) => dropReturn line :: lines after
    | (line, none) => [line]
termination_by cs.length
decreasing_by exact length_cutLine_lt _h

end NodeDeploy.Text
