import Mathlib.Data.List.DropRight
import NodeDeploy.Proofs.Delays
import NodeDeploy.Retry.Tracker

/-! # Backoffs of many keys in one table

One table serves all keys, and calls on any keys come in any order, some of them refused, which
spoils the lock of the table. To each key it looks as if it had a backoff of its own, which starts
afresh when it is forgotten: what a call gives depends on how many times the delay of the key was
asked for since then, and on nothing else.

* `asked` is that number. `asked_filter`: calls on other keys do not count.
* `RetryTracker.Serves` says what the table holds; `RetryTracker.Serves.call` is one call, and
  `RetryTracker.serves_afterCalls` all of them.
* `delays_of_key` is the result.
-/

namespace NodeDeploy

inductive RetryCall where
  /-- The next delay of a key is asked for. -/
  | next (key : String)
  /-- The sequence of a key is forgotten. -/
  | reset (key : String)
  deriving DecidableEq, Repr

def RetryCall.key : RetryCall → String
  | next key => key
  | reset key => key

/-! ## Counting -/

/-- How many times the delay of a key was asked for since its sequence was last forgotten, refused
calls included. -/
def asked (key : String) (calls : List RetryCall) : Nat :=
  (calls.rtakeWhile fun c => c ≠ .reset key).count (.next key)

section Counting

variable {key : String} (calls : List RetryCall)

theorem asked_concat_next : asked key (calls ++ [.next key]) = asked key calls + 1 := by
  rw [asked, List.rtakeWhile_concat_pos _ _ _ (by simp), List.count_append,
    List.count_singleton_self, asked]

theorem asked_concat_reset : asked key (calls ++ [.reset key]) = 0 := by
  rw [asked, List.rtakeWhile_concat_neg _ _ _ (by simp), List.count_nil]

/-- A call on another key does not count. -/
theorem asked_concat_ne {c : RetryCall} (h : c.key ≠ key) :
    asked key (calls ++ [c]) = asked key calls := by
  have hreset : c ≠ .reset key := by
    rintro rfl
    exact h rfl
  have hnext : RetryCall.next key ∉ [c] := by
    rw [List.mem_singleton]
    rintro rfl
    exact h rfl
  rw [asked, List.rtakeWhile_concat_pos _ _ _ (by simpa using hreset), List.count_append,
    List.count_eq_zero_of_not_mem hnext, Nat.add_zero, asked]

/-- **Calls on other keys do not count.** -/
theorem asked_filter : asked key (calls.filter fun c => c.key = key) = asked key calls := by
  induction calls using List.reverseRecOn with
  | nil => rfl
  | append_singleton earlier c ih =>
    by_cases hc : c.key = key
    · rw [List.filter_append, List.filter_cons_of_pos (by simpa using hc), List.filter_nil]
      rcases c with j | j <;> obtain rfl : j = key := hc
      · rw [asked_concat_next, asked_concat_next, ih]
      · rw [asked_concat_reset, asked_concat_reset]
    · rw [List.filter_append, List.filter_cons_of_neg (by simpa using hc), List.filter_nil,
        List.append_nil, asked_concat_ne _ hc, ih]

end Counting

/-! ## The table -/

namespace RetryTracker

def call (t : RetryTracker) : RetryCall → RetryTracker
  | .next key => (t.next key).2
  | .reset key => t.reset key

def afterCalls (t : RetryTracker) (calls : List RetryCall) : RetryTracker := calls.foldl call t

theorem afterCalls_concat (t : RetryTracker) (calls : List RetryCall) (c : RetryCall) :
    t.afterCalls (calls ++ [c]) = (t.afterCalls calls).call c := by
  simp [afterCalls]

/-- A delay that is asked for is that of the sequence of the key, which goes on, also where the call
is refused and spoils the lock. -/
theorem next_eq (t : RetryTracker) (key : String) : t.next key =
    ((t.sequence key).next?.map (·.1),
      { t with
        sequences := t.sequences.insert key (t.sequence key).advance
        spoiled := t.spoiled || (t.sequence key).next?.isNone }) := by
  rw [next, Backoff.advance, held_eq]
  cases (t.sequence key).next? <;> simp

/-- A table serves every key as if the key had a backoff of its own: it holds an entry for the keys
that were asked for since they were forgotten, which has made as many calls. Whether the lock is
spoiled does not matter. -/
structure Serves (shortest longest : Duration) (calls : List RetryCall) (t : RetryTracker) :
    Prop where
  shortest_eq : t.shortest = shortest
  longest_eq : t.longest = longest
  entry : ∀ key, t.sequences.find? key = if asked key calls = 0 then none
    else some ((Backoff.start shortest longest).afterCalls (asked key calls))

namespace Serves

variable {shortest longest : Duration} {calls : List RetryCall} {t : RetryTracker}

theorem sequence_eq (h : t.Serves shortest longest calls) (key : String) :
    t.sequence key = (Backoff.start shortest longest).afterCalls (asked key calls) := by
  rw [sequence, held_eq, h.entry, h.shortest_eq, h.longest_eq]
  split
  · next hzero => rw [hzero, Backoff.afterCalls_zero, Option.getD_none]
  · rfl

/-- **One call**: the table serves all keys after it, that of the call and the others. -/
theorem call (h : t.Serves shortest longest calls) (c : RetryCall) :
    (t.call c).Serves shortest longest (calls ++ [c]) := by
  cases c with
  | next key =>
    rw [RetryTracker.call]
    refine ⟨by rw [next_eq, h.shortest_eq], by rw [next_eq, h.longest_eq], fun j => ?_⟩
    by_cases hj : j = key
    · subst hj
      rw [next_eq, Dict.find?_insert_self, asked_concat_next, if_neg (by omega), h.sequence_eq,
        Backoff.afterCalls_succ]
    · rw [next_find?_ne _ hj, asked_concat_ne _ (Ne.symm hj), h.entry]
  | reset key =>
    refine ⟨h.shortest_eq, h.longest_eq, fun j => ?_⟩
    rw [RetryTracker.call]
    by_cases hj : j = key
    · subst hj
      rw [reset_find?_self, asked_concat_reset, if_pos rfl]
    · rw [reset_find?_ne _ hj, asked_concat_ne _ (Ne.symm hj), h.entry]

end Serves

/-- **All calls**: whatever is asked of a tracker, it serves all keys. -/
theorem serves_afterCalls (shortest longest : Duration) (calls : List RetryCall) :
    ((start shortest longest).afterCalls calls).Serves shortest longest calls := by
  induction calls using List.reverseRecOn with
  | nil => exact ⟨rfl, rfl, fun _ => rfl⟩
  | append_singleton earlier c ih =>
    rw [afterCalls_concat]
    exact ih.call c

end RetryTracker

/-- **Every key has a backoff of its own.** After any calls on any keys, whether they were refused or
not, the next delay of a key is what a backoff of its own gives after as many calls as the delay of
the key was asked for since the key was last forgotten; a refusal of that backoff is a refusal here,
and a lock that any refusal has spoiled is no obstacle. Calls on other keys change neither what the
call gives nor what the table holds for the key. -/
theorem delays_of_key (shortest longest : Duration) (calls : List RetryCall) (key : String) :
    (((RetryTracker.start shortest longest).afterCalls calls).next key).1 =
      (Backoff.start shortest longest).delay? (asked key calls) ∧
    (((RetryTracker.start shortest longest).afterCalls
        (calls.filter fun c => c.key = key)).next key).1 =
      (((RetryTracker.start shortest longest).afterCalls calls).next key).1 ∧
    ((RetryTracker.start shortest longest).afterCalls
        (calls.filter fun c => c.key = key)).sequences.find? key =
      ((RetryTracker.start shortest longest).afterCalls calls).sequences.find? key := by
  have hdelay (calls : List RetryCall) :
      (((RetryTracker.start shortest longest).afterCalls calls).next key).1 =
        (Backoff.start shortest longest).delay? (asked key calls) := by
    rw [RetryTracker.next_eq, (RetryTracker.serves_afterCalls shortest longest calls).sequence_eq,
      Backoff.delay?]
  refine ⟨hdelay calls, ?_, ?_⟩
  · rw [hdelay, hdelay, asked_filter]
  · rw [(RetryTracker.serves_afterCalls shortest longest _).entry,
      (RetryTracker.serves_afterCalls shortest longest _).entry, asked_filter]

end NodeDeploy
