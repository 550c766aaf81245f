import Mathlib.Data.Nat.Fib.Basic
import NodeDeploy.Retry.Backoff

/-! # Delays in closed form

Each delay of a backoff is made from the two before it and then cut to the longest one, and what was
cut goes into the sums that follow. In spite of that a delay is the Fibonacci multiple of the
shortest one, cut to the longest one, as long as no sum is longer than any duration; from the first
such sum on every call is refused.

* `Backoff.term` is the closed form. `Backoff.nanos_term_add_two`: it follows the rule by which
  delays are made, also where they are cut.
* `Backoff.next?_atTerm`: one call, and `Backoff.afterCalls_eq_atTerm`: all calls before the first
  one that is refused.
* `Backoff.delay?_of_le`: a refused call is followed by refused calls only.
* `Backoff.delays_closed_form` is the result.
-/

namespace NodeDeploy

namespace Duration

@[simp] theorem nanos_zero : zero.nanos = 0 := rfl

def greatest : Duration := ⟨0x10000000000000000 * 1000000000 - 1, by decide⟩

theorem le_greatest (d : Duration) : d.nanos ≤ greatest.nanos := Nat.le_sub_one_of_lt d.bounded

theorem add?_eq_none_iff_greatest_lt {a b : Duration} :
    a.add? b = none ↔ greatest.nanos < a.nanos + b.nanos := by
  have hgreatest : greatest.nanos = 0x10000000000000000 * 1000000000 - 1 := rfl
  rw [add?_eq_none_iff, hgreatest]
  omega

end Duration

namespace Backoff

/-! ## Calls -/

/-- The sequence after one call: a refused call leaves it where it was. -/
def advance (b : Backoff) : Backoff := (b.next?.map (·.2)).getD b

def afterCalls (b : Backoff) (k : Nat) : Backoff := advance^[k] b

def delay? (b : Backoff) (k : Nat) : Option Duration := (b.afterCalls k).next?.map (·.1)

@[simp] theorem afterCalls_zero (b : Backoff) : b.afterCalls 0 = b := rfl

theorem afterCalls_succ (b : Backoff) (k : Nat) :
    b.afterCalls (k + 1) = (b.afterCalls k).advance :=
  Function.iterate_succ_apply' advance k b

theorem delay?_eq_none_iff {b : Backoff} {k : Nat} :
    b.delay? k = none ↔ (b.afterCalls k).next? = none := by
  rw [delay?, Option.map_eq_none_iff]

/-- The delays that are listed are those of the calls. -/
theorem delays_eq_map (b : Backoff) (n : Nat) : b.delays n = (List.range n).map b.delay? := by
  induction n generalizing b with
  | zero => rfl
  | succ n ih =>
    have hshift : (fun k => b.delay? (k + 1)) = b.advance.delay? := rfl
    rw [List.range_succ_eq_map, List.map_cons, List.map_map, Function.comp_def, hshift, ← ih,
      delays, delay?, afterCalls_zero, advance]
    cases b.next? <;> rfl

/-- **After a refused call nothing changes any more**: the sequence stays where it was, and every
call is refused. -/
theorem delay?_of_le {b : Backoff} {k : Nat} (h : b.delay? k = none) {j : Nat} (hj : k ≤ j) :
    b.afterCalls j = b.afterCalls k ∧ b.delay? j = none := by
  have hnext := delay?_eq_none_iff.1 h
  have hstay : b.afterCalls j = b.afterCalls k := by
    induction j, hj using Nat.le_induction with
    | base => rfl
    | succ j _ ih =>
      rw [afterCalls_succ, ih, advance, hnext]
      rfl
  exact ⟨hstay, by rw [delay?_eq_none_iff, hstay, hnext]⟩

/-! ## The closed form -/

variable (shortest longest : Duration)

/-- The delay with a number, as long as no sum is too long: that Fibonacci multiple of the shortest
delay, and at most the longest one. If the shortest one is longer than the longest one, it comes
first nevertheless. Number 0 is no time at all. -/
def term (k : Nat) : Duration :=
  if shortest ≤ longest then
    ⟨min (Nat.fib k * shortest.nanos) longest.nanos, Nat.lt_of_le_of_lt (Nat.min_le_right _ _)
      longest.bounded⟩
  else if k = 0 then .zero
  else if k = 1 then shortest
  else longest

variable {shortest longest}

theorem nanos_term (h : shortest ≤ longest) (k : Nat) :
    (term shortest longest k).nanos = min (Nat.fib k * shortest.nanos) longest.nanos := by
  rw [term, if_pos h]

/-- After a shortest delay that is too long there are only longest ones. -/
theorem term_add_two_of_not_le (h : ¬shortest ≤ longest) (k : Nat) :
    term shortest longest (k + 2) = longest := by
  rw [term, if_neg h, if_neg (by omega), if_neg (by omega)]

variable (shortest longest)

theorem term_zero : term shortest longest 0 = .zero := by
  rw [term]
  split
  · exact Duration.ext (by simp)
  · rfl

theorem term_one : term shortest longest 1 = shortest := by
  rw [term]
  split
  · next h =>
    have hle : shortest.nanos ≤ longest.nanos := h
    exact Duration.ext (by simpa using hle)
  · rfl

/-- **The closed form follows the rule by which delays are made**: each term is the sum of the two
before it, cut to the longest delay. -/
theorem nanos_term_add_two (k : Nat) : (term shortest longest (k + 2)).nanos =
    min ((term shortest longest k).nanos + (term shortest longest (k + 1)).nanos)
      longest.nanos := by
  by_cases h : shortest ≤ longest
  · -- A term that was cut is the longest delay, and a sum with it is cut again.
    have hfib : Nat.fib (k + 2) * shortest.nanos =
        Nat.fib k * shortest.nanos + Nat.fib (k + 1) * shortest.nanos := by
      rw [Nat.fib_add_two, Nat.add_mul]
    rw [nanos_term h, nanos_term h, nanos_term h, hfib]
    omega
  · have hlt : longest.nanos < shortest.nanos := Nat.lt_of_not_le h
    rw [term_add_two_of_not_le h]
    match k with
    | 0 =>
      rw [term_zero, term_one, Duration.nanos_zero]
      omega
    | 1 =>
      rw [term_one, term_add_two_of_not_le h]
      omega
    | k + 2 =>
      rw [term_add_two_of_not_le h, term_add_two_of_not_le h]
      omega

/-- The sequence that has come to a term. -/
def atTerm (k : Nat) : Backoff :=
  ⟨term shortest longest k, term shortest longest (k + 1), longest⟩

theorem start_eq_atTerm : start shortest longest = atTerm shortest longest 0 := by
  rw [start, atTerm, term_zero, term_one]

/-- Whether the sum of a term and the next one is longer than any duration. -/
def Exceeds (k : Nat) : Prop := Duration.greatest.nanos <
  (term shortest longest k).nanos + (term shortest longest (k + 1)).nanos

instance (k : Nat) : Decidable (Exceeds shortest longest k) := inferInstanceAs (Decidable (_ < _))

/-- **One call** gives the next term and goes on to it, unless the sum is too long. -/
theorem next?_atTerm (k : Nat) :
    (atTerm shortest longest k).next? = if Exceeds shortest longest k then none
      else some (term shortest longest (k + 1), atTerm shortest longest (k + 1)) := by
  rw [next?, atTerm]
  split
  · next h => rw [Duration.add?_eq_none_iff_greatest_lt.2 h, Option.map_none]
  · next h =>
    obtain ⟨sum, hsum⟩ := Option.ne_none_iff_exists'.1
      (mt Duration.add?_eq_none_iff_greatest_lt.1 h)
    have hshorter : sum.shorter longest = term shortest longest (k + 2) := Duration.ext (by
      rw [Duration.nanos_shorter, Duration.add?_eq_some_iff.1 hsum, nanos_term_add_two])
    rw [hsum, Option.map_some, hshorter, atTerm]

/-! ## Runs -/

variable {shortest longest}

/-- **All calls** before the first one that is refused come from term to term. -/
theorem afterCalls_eq_atTerm {k : Nat}
    (h : ∀ j < k, ((start shortest longest).delay? j).isSome) :
    (start shortest longest).afterCalls k = atTerm shortest longest k := by
  induction k with
  | zero => exact start_eq_atTerm shortest longest
  | succ k ih =>
    have hk := ih fun j hj => h j (by omega)
    have hdelay := h k (by omega)
    rw [delay?, hk, next?_atTerm] at hdelay
    rw [afterCalls_succ, hk, advance, next?_atTerm]
    split at hdelay
    · simp at hdelay
    · next hfits =>
      rw [if_neg hfits]
      rfl

/-- What a call gives if none before it was refused. -/
theorem delay?_start {k : Nat} (h : ∀ j < k, ((start shortest longest).delay? j).isSome) :
    (start shortest longest).delay? k =
      if Exceeds shortest longest k then none else some (term shortest longest (k + 1)) := by
  rw [delay?, afterCalls_eq_atTerm h, next?_atTerm]
  split <;> rfl

/-- No call before one that gives a delay was refused. -/
theorem isSome_of_le {b : Backoff} {j k : Nat} (h : (b.delay? k).isSome) (hj : j ≤ k) :
    (b.delay? j).isSome := by
  rw [Option.isSome_iff_ne_none] at h ⊢
  exact fun hnone => h (delay?_of_le hnone hj).2

/-- A delay that is given is a term. -/
theorem eq_term_of_delay? {k : Nat} {d : Duration}
    (h : (start shortest longest).delay? k = some d) : d = term shortest longest (k + 1) := by
  have hsome : ((start shortest longest).delay? k).isSome := by rw [h]; rfl
  rw [delay?_start fun j hj => isSome_of_le hsome (by omega)] at h
  split at h
  · cases h
  · exact (Option.some.inj h).symm

/-- If two longest delays, and a shortest and a longest one, make a duration, so do all terms that
follow each other. -/
theorem not_exceeds (hlongest : 2 * longest.nanos ≤ Duration.greatest.nanos)
    (hboth : shortest.nanos + longest.nanos ≤ Duration.greatest.nanos) (k : Nat) :
    ¬Exceeds shortest longest k := by
  rw [Exceeds, Nat.not_lt]
  by_cases h : shortest ≤ longest
  · rw [nanos_term h, nanos_term h]
    omega
  · match k with
    | 0 =>
      have hshortest := shortest.le_greatest
      rw [term_zero, term_one, Duration.nanos_zero]
      omega
    | 1 =>
      rw [term_one, term_add_two_of_not_le h]
      exact hboth
    | k + 2 =>
      rw [term_add_two_of_not_le h, term_add_two_of_not_le h]
      omega

/-- If no sum is too long, no call is refused. -/
theorem delay?_of_not_exceeds (h : ∀ k, ¬Exceeds shortest longest k) (k : Nat) :
    (start shortest longest).delay? k = some (term shortest longest (k + 1)) := by
  induction k using Nat.strong_induction_on with
  | _ k ih =>
    have hbefore : ∀ j < k, ((start shortest longest).delay? j).isSome := fun j hj => by
      rw [ih j hj]
      rfl
    rw [delay?_start hbefore, if_neg (h k)]

/-- Terms grow up to the longest delay. -/
theorem term_le_term (h : shortest ≤ longest) {j k : Nat} (hj : j ≤ k) :
    term shortest longest j ≤ term shortest longest k ∧ term shortest longest k ≤ longest := by
  have hgrow : Nat.fib j * shortest.nanos ≤ Nat.fib k * shortest.nanos :=
    Nat.mul_le_mul_right _ (Nat.fib_mono hj)
  change (term shortest longest j).nanos ≤ (term shortest longest k).nanos ∧
    (term shortest longest k).nanos ≤ longest.nanos
  rw [nanos_term h, nanos_term h]
  omega

variable (shortest longest)

/-- **The delays of a backoff in closed form.** As long as no call was refused, the call after `k`
others has the term with the number `k + 1` for its delay: that Fibonacci multiple of the shortest
delay, and at most the longest one (the shortest one and then longest ones, if the shortest is
longer than the longest). It is refused exactly when the sum of the term before it and its own is
longer than any duration, and otherwise gives its delay. After a refused call the sequence stays
where it is, and all calls are refused. No call is refused at all if two longest delays, and a
shortest and a longest one, make a duration. Delays that do not start beyond the longest one never
get shorter, never exceed it, and stay there. What is listed are the delays of the calls. -/
theorem delays_closed_form :
    (∀ k, (∀ j < k, ((start shortest longest).delay? j).isSome) →
      ((start shortest longest).afterCalls k).current = term shortest longest (k + 1) ∧
      ((start shortest longest).delay? k = none ↔ Duration.greatest.nanos <
        (term shortest longest k).nanos + (term shortest longest (k + 1)).nanos) ∧
      ∀ d, (start shortest longest).delay? k = some d → d = term shortest longest (k + 1)) ∧
    (∀ k, (start shortest longest).delay? k = none → ∀ j, k ≤ j →
      (start shortest longest).afterCalls j = (start shortest longest).afterCalls k ∧
      (start shortest longest).delay? j = none) ∧
    (2 * longest.nanos ≤ Duration.greatest.nanos →
      shortest.nanos + longest.nanos ≤ Duration.greatest.nanos →
      ∀ k, (start shortest longest).delay? k = some (term shortest longest (k + 1))) ∧
    (shortest ≤ longest → ∀ j k d e, j ≤ k → (start shortest longest).delay? j = some d →
      (start shortest longest).delay? k = some e → d ≤ e ∧ e ≤ longest ∧
        (d = longest → e = longest)) ∧
    ∀ n, (start shortest longest).delays n =
      (List.range n).map (start shortest longest).delay? := by
  refine ⟨fun k h => ⟨?_, ?_, fun d => eq_term_of_delay?⟩, fun k h j hj => delay?_of_le h hj,
    fun hlongest hboth => delay?_of_not_exceeds (not_exceeds hlongest hboth),
    fun h j k d e hj hd he => ?_, delays_eq_map _⟩
  · rw [afterCalls_eq_atTerm h, atTerm]
  · rw [delay?_start h, ← Exceeds]
    simp
  · obtain rfl := eq_term_of_delay? hd
    obtain rfl := eq_term_of_delay? he
    obtain ⟨hgrow, hbound⟩ := term_le_term h (Nat.succ_le_succ hj)
    refine ⟨hgrow, hbound, fun hmax => Duration.ext (Nat.le_antisymm hbound ?_)⟩
    calc longest.nanos = (term shortest longest (j + 1)).nanos := congrArg Duration.nanos hmax.symm
      _ ≤ (term shortest longest (k + 1)).nanos := hgrow

/-- The sixth delay is eight times the shortest one, and not shorter than the fifth. Where the delay
is the longest duration there is, the second call is refused, and so is the tenth. -/
theorem delays_closed_form_sample :
    (start (.ofSeconds 1) (.ofSeconds 10)).delay? 5 = some (.ofSeconds 8) ∧
    Duration.ofSeconds 5 ≤ .ofSeconds 8 ∧
    (∀ j < 1, ((start .greatest .greatest).delay? j).isSome) ∧
    (start .greatest .greatest).delay? 1 = none ∧
    (start .greatest .greatest).delay? 9 = none := by
  obtain ⟨-, -, hfits, hgrow, -⟩ := delays_closed_form (.ofSeconds 1) (.ofSeconds 10)
  obtain ⟨hfirst, hlater, -⟩ := delays_closed_form .greatest .greatest
  have hfifth := hfits (by decide) (by decide) 4
  have hsixth := hfits (by decide) (by decide) 5
  have hgiven : ∀ j < 1, ((start .greatest .greatest).delay? j).isSome := by decide
  have hrefused := (hfirst 1 hgiven).2.1.2 (by decide)
  exact ⟨hsixth, (hgrow (by decide) 4 5 _ _ (by decide) hfifth hsixth).1, hgiven, hrefused,
    (hlater 1 hrefused 9 (by decide)).2⟩

end Backoff

end NodeDeploy
