import NodeDeploy.Time.Duration

/-! # Backoff

The delays between the retries of a task grow as the Fibonacci numbers do: each is the sum of the
two before it, up to a longest delay. A sum that is no duration ends in an overflow, which leaves
the sequence where it was.
-/

namespace NodeDeploy

/-- A sequence of delays: the last one, the next one, and the longest that may follow it. -/
structure Backoff where
  previous : Duration
  current : Duration
  longest : Duration
  deriving DecidableEq, Repr

namespace Backoff

def start (shortest longest : Duration) : Backoff := ⟨.zero, shortest, longest⟩

/-- The next delay and the sequence after it, unless the sum that follows overflows. -/
def next? (b : Backoff) : Option (Duration × Backoff) :=
  (b.previous.add? b.current).map fun sum =>
    (b.current, { b with previous := b.current, current := sum.shorter b.longest })

/-- The first `n` delays, a refused one given as `none`. -/
def delays (b : Backoff) : Nat → List (Option Duration)
  | 0 => []
  | n + 1 =>
    match b.next? with
    | some (d, b) => some d :: b.delays n
    | none => none :: b.delays n

end Backoff

end NodeDeploy
