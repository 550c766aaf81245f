import NodeDeploy.Dict
import NodeDeploy.Retry.Backoff

/-! # Retries of many tasks

Every key has a backoff sequence of its own, which starts with its first retry and is forgotten when
the key makes progress. All sequences stand behind one lock. A call whose delay overflows breaks off
while it holds the lock, which is spoiled from then on.

* `RetryTracker.held_eq`: later calls go on with the sequences of a spoiled lock as they are.
* `RetryTracker.next_find?_ne` and `RetryTracker.reset_find?_ne`: other keys are left alone.
-/

namespace NodeDeploy

structure RetryTracker where
  shortest : Duration
  longest : Duration
  sequences : Dict String Backoff
  /-- Whether a call broke off while it held the lock. -/
  spoiled : Bool := false

namespace RetryTracker

def start (shortest longest : Duration) : RetryTracker :=
  { shortest, longest, sequences := {} }

/-- The tracker of the dispatcher: from one second up to one minute. -/
def standard : RetryTracker := start (.ofSeconds 1) (.ofSeconds 60)

/-- Takes the lock. One that is spoiled says so, and gives its sequences with that. -/
def lock (t : RetryTracker) : Except (Dict String Backoff) (Dict String Backoff) :=
  if t.spoiled then .error t.sequences else .ok t.sequences

/-- The sequences behind the lock, be it spoiled or not. -/
def held (t : RetryTracker) : Dict String Backoff :=
  match t.lock with
  | .ok sequences => sequences
  | .error sequences => sequences

/-- A spoiled lock withholds nothing. -/
@[simp] theorem held_eq (t : RetryTracker) : t.held = t.sequences := by
  rw [held, lock]
  cases t.spoiled <;> rfl

/-- The sequence of a key, a new one if the key has none. -/
def sequence (t : RetryTracker) (key : String) : Backoff :=
  (t.held.find? key).getD (.start t.shortest t.longest)

/-- The next delay of a key, unless it overflows, which spoils the lock; the key has a sequence from
then on. -/
def next (t : RetryTracker) (key : String) : Option Duration × RetryTracker :=
  let b := t.sequence key
  match b.next? with
  | some (d, b) => (some d, { t with sequences := t.held.insert key b })
  | none => (none, { t with sequences := t.held.insert key b, spoiled := true })

def reset (t : RetryTracker) (key : String) : RetryTracker :=
  { t with sequences := t.held.erase key }

theorem next_find?_ne (t : RetryTracker) {k j : String} (h : j ≠ k) :
    (t.next k).2.sequences.find? j = t.sequences.find? j := by
  rw [next, held_eq]
  split <;> exact Dict.find?_insert_ne _ h _

theorem reset_find?_ne (t : RetryTracker) {k j : String} (h : j ≠ k) :
    (t.reset k).sequences.find? j = t.sequences.find? j := by
  rw [reset, held_eq]
  exact Dict.find?_erase_ne _ h

theorem reset_find?_self (t : RetryTracker) (k : String) :
    (t.reset k).sequences.find? k = none :=
  Dict.find?_erase_self _ k

end RetryTracker

end NodeDeploy
