/-! # Ranges of code points

A property of characters is given by ranges of code points, so that a table of it stays short.
-/

namespace NodeDeploy.Text

/-- Whether one of the ranges, listed by increasing ends, holds `n`. -/
def inRanges (n : Nat) : List (Nat × Nat) → Bool
  | [] => false
  | (lo, hi) :: rest => if n ≤ hi then lo ≤ n else inRanges n rest

end NodeDeploy.Text
