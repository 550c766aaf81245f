import NodeDeploy.Dispatch.Run
import NodeDeploy.Proofs.Delays

/-! # When passes are retried

The backoff of an intent is kept under the text of its key, in one table for all intents, and the
table is written to after every pass of any of them. What it comes to is told here by the history of
the results alone: the delay before the next retry depends on how many passes of the intent have
asked for one in a row, and on nothing else.

* `streak` is that number, and `Backoff.after` the sequence after so many retries.
* `ObjectKey.text_injective`: without a slash in a namespace, no two intents share a backoff.
* `Tracks.react`: what one reaction does to the table.
* `react_after`: the reaction to any result after any history.
* `exists_history_run`: the table of a dispatcher is that after the results of its passes.
-/

namespace NodeDeploy

/-! ## Delays -/

/-- The delay before the retry with a number: that Fibonacci number of seconds, and at most a
minute. -/
def retryDelay (n : Nat) : Duration := ⟨min (Nat.fib n) 60 * 1000000000, by omega⟩

theorem retryDelay_eq_term (n : Nat) :
    retryDelay n = Backoff.term (.ofSeconds 1) (.ofSeconds 60) n := by
  have hsecond : (Duration.ofSeconds 1).nanos = 1000000000 := rfl
  have hminute : (Duration.ofSeconds 60).nanos = 60 * 1000000000 := rfl
  refine Duration.ext ?_
  rw [Backoff.nanos_term (by decide), hsecond, hminute]
  exact (Nat.mul_min_mul_right _ _ _).symm

def Backoff.after (n : Nat) : Backoff := ⟨retryDelay n, retryDelay (n + 1), .ofSeconds 60⟩

/-- **Each retry waits for the next Fibonacci number of seconds**, up to a minute, and no sum
overflows. -/
theorem Backoff.next?_after (n : Nat) :
    (Backoff.after n).next? = some (retryDelay (n + 1), .after (n + 1)) := by
  have hfits : ¬Exceeds (.ofSeconds 1) (.ofSeconds 60) n := not_exceeds (by decide) (by decide) n
  have hterm (k : Nat) : Backoff.after k = atTerm (.ofSeconds 1) (.ofSeconds 60) k := by
    rw [Backoff.after, atTerm, retryDelay_eq_term, retryDelay_eq_term]
  rw [hterm, next?_atTerm, if_neg hfits, hterm, retryDelay_eq_term]

theorem Backoff.start_eq_after : Backoff.start (.ofSeconds 1) (.ofSeconds 60) = .after 0 := rfl

/-! ## Keys -/

def ObjectKey.Slashless (k : ObjectKey) : Prop := '/' ∉ k.ns.toList

instance (k : ObjectKey) : Decidable k.Slashless := inferInstanceAs (Decidable (¬_))

/-- What stands before the first slash, and what stands after it, can be told from the whole. -/
theorem append_slash_inj {a b c d : List Char} (ha : '/' ∉ a) (hb : '/' ∉ b)
    (h : a ++ '/' :: c = b ++ '/' :: d) : a = b ∧ c = d := by
  rcases List.append_eq_append_iff.1 h with ⟨e, rfl, he⟩ | ⟨e, rfl, he⟩
  · rcases List.cons_eq_append_iff.1 he with ⟨rfl, he⟩ | ⟨e', rfl, -⟩
    · exact ⟨by simp, (List.cons.inj he).2⟩
    · simp at hb
  · rcases List.cons_eq_append_iff.1 he with ⟨rfl, he⟩ | ⟨e', rfl, -⟩
    · exact ⟨by simp, (List.cons.inj he).2.symm⟩
    · simp at ha

/-- **A key can be told from its text**, if no slash is in its namespace; its name may hold any. -/
theorem ObjectKey.text_injective {j k : ObjectKey} (hj : j.Slashless) (hk : k.Slashless)
    (h : j.text = k.text) : j = k := by
  have htext (i : ObjectKey) : i.text.toList = i.ns.toList ++ '/' :: i.name.toList := by
    simp [ObjectKey.text]
  have hlist : j.ns.toList ++ '/' :: j.name.toList = k.ns.toList ++ '/' :: k.name.toList := by
    rw [← htext, ← htext, h]
  obtain ⟨hns, hname⟩ := append_slash_inj hj hk hlist
  rcases j with ⟨ns, name⟩
  rcases k with ⟨ns', name'⟩
  obtain rfl : ns = ns' := String.toList_inj.1 hns
  obtain rfl : name = name' := String.toList_inj.1 hname
  rfl

/-! ## Histories -/

/-- The results of passes over intents, the latest at the end. -/
abbrev History := List (ObjectKey × Except Failure Outcome)

def retried (result : Except Failure Outcome) : Bool := Requeue.ofResult result = .immediate

/-- How many passes of an intent have asked for a retry in a row, up to now. -/
def streak (k : ObjectKey) (history : History) : Nat :=
  ((history.filter fun r => r.1 = k).reverse.takeWhile fun r => retried r.2).length

def RetryTracker.after (history : History) : RetryTracker :=
  history.foldl (fun t r => (react t r.1.text r.2).2) .standard

/-- What is due after a pass that asks for `requeue`, if so many passes before it have asked for a
retry in a row. -/
def Reaction.due (retries : Nat) : Requeue → Reaction
  | .never => .awaitChange
  | .after delay => .requeue delay
  | .immediate => .requeue (retryDelay (retries + 1))

theorem RetryTracker.after_concat (history : History) (k : ObjectKey)
    (result : Except Failure Outcome) : RetryTracker.after (history ++ [(k, result)]) =
      (react (.after history) k.text result).2 := by
  simp [RetryTracker.after]

/-- A retry makes the streak longer, and any other result ends it. -/
theorem streak_concat_self (k : ObjectKey) (history : History) (result : Except Failure Outcome) :
    streak k (history ++ [(k, result)]) = if retried result then streak k history + 1 else 0 := by
  rw [streak, List.filter_append, List.filter_cons_of_pos (by simp), List.filter_nil,
    List.reverse_append, List.reverse_singleton, List.singleton_append, List.takeWhile_cons]
  split
  · rw [List.length_cons, streak]
  · rfl

/-- The results of other intents do not count. -/
theorem streak_concat_ne {j k : ObjectKey} (h : j ≠ k) (history : History)
    (result : Except Failure Outcome) :
    streak k (history ++ [(j, result)]) = streak k history := by
  rw [streak, List.filter_append, List.filter_cons_of_neg (by simpa using h), List.filter_nil,
    List.append_nil, streak]

/-- The table holds what a history asks for: a backoff for every intent whose streak goes on, as
far as the streak goes, and nothing else. -/
structure Tracks (history : History) (t : RetryTracker) : Prop where
  shortest : t.shortest = .ofSeconds 1
  longest : t.longest = .ofSeconds 60
  entry : ∀ k : ObjectKey, k.Slashless → t.sequences.find? k.text =
    if streak k history = 0 then none else some (.after (streak k history))
  nothing : ∀ s, (∀ k : ObjectKey, k.Slashless → k.text ≠ s) → t.sequences.find? s = none

namespace Tracks

variable {history : History} {t : RetryTracker} {k : ObjectKey}

theorem sequence_eq (h : Tracks history t) (hk : k.Slashless) :
    t.sequence k.text = .after (streak k history) := by
  rw [RetryTracker.sequence, RetryTracker.held_eq, h.entry k hk, h.shortest, h.longest,
    Backoff.start_eq_after]
  split
  · next hzero => rw [hzero]; rfl
  · rfl

theorem next_eq (h : Tracks history t) (hk : k.Slashless) :
    t.next k.text = (some (retryDelay (streak k history + 1)),
      { t with sequences := t.sequences.insert k.text (.after (streak k history + 1)) }) := by
  rw [RetryTracker.next, RetryTracker.held_eq]
  simp only [h.sequence_eq hk, Backoff.next?_after]

/-- A retry takes the next delay of its intent. -/
theorem retry (h : Tracks history t) (hk : k.Slashless) {result : Except Failure Outcome}
    (hr : retried result = true) :
    Tracks (history ++ [(k, result)])
      { t with sequences := t.sequences.insert k.text (.after (streak k history + 1)) } where
  shortest := h.shortest
  longest := h.longest
  entry j hj := by
    by_cases hjk : k = j
    · subst hjk
      rw [streak_concat_self, if_pos hr, if_neg (by omega), Dict.find?_insert_self]
    · have htext : j.text ≠ k.text := fun e => hjk (ObjectKey.text_injective hk hj e.symm)
      rw [streak_concat_ne hjk, Dict.find?_insert_ne _ htext, h.entry j hj]
  nothing s hs := by
    rw [Dict.find?_insert_ne _ (hs k hk).symm]
    exact h.nothing s hs

/-- Any other result ends the backoff of its intent. -/
theorem reset (h : Tracks history t) (hk : k.Slashless) {result : Except Failure Outcome}
    (hr : retried result = false) : Tracks (history ++ [(k, result)]) (t.reset k.text) where
  shortest := h.shortest
  longest := h.longest
  entry j hj := by
    by_cases hjk : k = j
    · subst hjk
      rw [streak_concat_self, hr, t.reset_find?_self]
      rfl
    · have htext : j.text ≠ k.text := fun e => hjk (ObjectKey.text_injective hk hj e.symm)
      rw [streak_concat_ne hjk, t.reset_find?_ne htext, h.entry j hj]
  nothing s hs := by
    rw [t.reset_find?_ne (hs k hk).symm]
    exact h.nothing s hs

/-- **One reaction**: it is the one that is due, and the table tracks the longer history. -/
theorem react (h : Tracks history t) (hk : k.Slashless) (result : Except Failure Outcome) :
    (react t k.text result).1 = some (.due (streak k history) (Requeue.ofResult result)) ∧
      Tracks (history ++ [(k, result)]) (NodeDeploy.react t k.text result).2 := by
  rw [NodeDeploy.react]
  cases hr : Requeue.ofResult result with
  | never => exact ⟨rfl, h.reset hk (by simp [retried, hr])⟩
  | after delay => exact ⟨rfl, h.reset hk (by simp [retried, hr])⟩
  | immediate =>
    simp only [h.next_eq hk]
    exact ⟨rfl, h.retry hk (by simp [retried, hr])⟩

end Tracks

namespace Dispatcher

variable {σ : Type} {d : Dispatcher σ} {history : History}

/-- The passes of a dispatcher are those of a history, and its table is the one after that. -/
structure Follows (d : Dispatcher σ) (history : History) : Prop where
  passes : d.passes.map (·.2) = history.map (·.1)
  tracker : d.tracker = .after history

theorem Follows.notice (h : d.Follows history) (time : Nat) (event : WatchEvent) :
    (d.notice time event).Follows history := by
  cases event with
  | intent kind i => cases kind <;> exact ⟨h.passes, h.tracker⟩
  | pod kind p => exact ⟨h.passes, h.tracker⟩

/-- What happens around the dispatcher does not touch its table. -/
theorem Follows.undergo (h : d.Follows history) (happening : Happening σ) :
    (d.undergo happening).Follows history := by
  rw [Dispatcher.undergo]
  have hstart : { d with world := happening.change d.world }.Follows history :=
    ⟨h.passes, h.tracker⟩
  generalize { d with world := happening.change d.world } = d' at hstart
  induction happening.events generalizing d' with
  | nil => exact hstart
  | cons event rest ih => exact ih _ (hstart.notice happening.time event)

/-- A pass adds its result to the history. -/
theorem Follows.runPass (h : d.Follows history)
    (pass : ObjectKey → σ → Except Failure Outcome × σ) (key : WatchKey) (time : Nat) :
    ∃ later, (d.runPass pass key time).Follows (history ++ later) := by
  rw [Dispatcher.runPass]
  rcases d.intent? key with _ | intent
  · exact ⟨[], by simpa using ⟨h.passes, h.tracker⟩⟩
  · refine ⟨[(intent, (pass intent d.world).1)], ?_, ?_⟩
    · simp [h.passes]
    · rw [RetryTracker.after_concat, ← h.tracker]

theorem Follows.runSteps (h : d.Follows history)
    (pass : ObjectKey → σ → Except Failure Outcome × σ) (stop steps : Nat)
    (happenings : List (Happening σ)) :
    ∃ later, (Dispatcher.runSteps pass stop steps happenings d).Follows (history ++ later) := by
  induction steps generalizing happenings d history with
  | zero =>
    rw [Dispatcher.runSteps]
    exact ⟨[], by rwa [List.append_nil]⟩
  | succ steps ih =>
    have hstay : ∃ later, d.Follows (history ++ later) := ⟨[], by rwa [List.append_nil]⟩
    have hpass (key : WatchKey) (due : Nat) (happenings : List (Happening σ)) : ∃ later,
        (Dispatcher.runSteps pass stop steps happenings (d.runPass pass key due)).Follows
          (history ++ later) := by
      obtain ⟨earlier, hearlier⟩ := h.runPass pass key due
      obtain ⟨later, hlater⟩ := ih hearlier happenings
      exact ⟨earlier ++ later, by rwa [← List.append_assoc]⟩
    rw [Dispatcher.runSteps.eq_def]
    dsimp only
    split
    · exact hstay
    · split
      · exact hpass _ _ _
      · exact hstay
    · split
      · exact ih (h.undergo _) _
      · exact hstay
    · split
      · split
        · exact hpass _ _ _
        · exact hstay
      · split
        · exact ih (h.undergo _) _
        · exact hstay

/-- **The table of a dispatcher is the one after the results of its passes**, whatever happens in
its world and whatever the passes do. -/
theorem exists_history_run (pass : ObjectKey → σ → Except Failure Outcome × σ) (stop : Nat)
    (happenings : List (Happening σ)) (world : σ) :
    ∃ history, (run pass stop happenings world).Follows history := by
  have hstart : ({ world } : Dispatcher σ).Follows [] := ⟨rfl, rfl⟩
  exact hstart.runSteps pass stop _ _

end Dispatcher

end NodeDeploy
