import NodeDeploy.Proofs.Calendar
import NodeDeploy.Proofs.Numerals
import NodeDeploy.Time.Rfc3339

/-! # Timestamps are read as they were written

A timestamp is read as the instant that it was written for, if its year is one that timestamps may
name and a leap second is the last of its minute. A timestamp in whole seconds drops the fraction
and keeps the rest.

* `Instant.Recordable`: the instants that a timestamp can name.
* `Rfc3339.number?_digits`, `Rfc3339.year?_yearChars` and `Rfc3339.fraction?_fractionChars`: the
  parts of a timestamp. `Rfc3339.IsOffset` is its end, with which it names another offset than UTC,
  and `Rfc3339.read?_chars` puts the parts together before any such end.
* `Instant.read?_text` and `Instant.read?_wholeText`: a whole timestamp.
-/

namespace NodeDeploy

/-- An instant that a timestamp can name. -/
structure Instant.Recordable (t : Instant) : Prop where
  year : Rfc3339.inYearRange t.date.year = true
  nanos : t.nanos < 2000000000
  /-- A leap second is the last of its minute. -/
  leap : 1000000000 ≤ t.nanos → t.secondOfDay % 60 = 59

namespace Rfc3339

/-! ## The parts of a timestamp -/

section

variable {ds rest : List Char} (hds : ∀ c ∈ ds, Text.isDigit c = true)
  (hrest : ∀ c ∈ rest.head?, Text.isDigit c = false)
include hds

/-- Blanks are looked for before digits, where none are. -/
theorem trimStart_digits (hne : ds ≠ []) : Text.trimStart (ds ++ rest) = ds ++ rest := by
  cases ds with
  | nil => exact absurd rfl hne
  | cons d ds =>
    rw [Text.trimStart, List.cons_append, List.dropWhile_cons_of_neg]
    simp [Text.isBlank_of_isDigit (hds d List.mem_cons_self)]

include hrest

theorem number?_digits {most : Nat} (hne : ds ≠ []) (hmost : ds.length ≤ most) :
    number? most (ds ++ rest) = some (Text.digitsValue 0 ds, rest) := by
  have hrest' : ∀ c ∈ (rest.take (most - ds.length)).head?, Text.isDigit c = false := by
    intro c hc
    cases rest with
    | nil => simp at hc
    | cons d rest =>
      cases hn : most - ds.length with
      | zero => simp [hn] at hc
      | succ n =>
        rw [hn] at hc
        exact hrest c hc
  have htake : ((ds ++ rest).take most).takeWhile Text.isDigit = ds := by
    rw [List.take_append, List.take_of_length_le hmost]
    exact Text.takeWhile_digits hds hrest'
  have hall : ds.all Text.isDigit = true := List.all_eq_true.2 hds
  have hempty : ds.isEmpty = false := List.isEmpty_eq_false_iff.2 hne
  simp [number?, htake, Text.readDigits?, hall, hempty]

end

theorem number?_padDigits (width : Nat) {most n : Nat} {rest : List Char}
    (h : n < 10 ^ (width + 1)) (hmost : width + 1 ≤ most)
    (hrest : ∀ c ∈ rest.head?, Text.isDigit c = false) :
    number? most (Text.padDigits (width + 1) n ++ rest) = some (n, rest) := by
  rw [number?_digits (fun c hc => Text.isDigit_of_mem_padDigits hc) hrest
    (Text.padDigits_ne_nil _ n) (by rwa [Text.length_padDigits h]), Text.digitsValue_padDigits]

/-- Two digits are read where a character that is none stands behind them. -/
theorem field?_padDigits {n : Nat} {rest : List Char} (h : n < 100)
    (hrest : ∀ c ∈ rest.head?, Text.isDigit c = false) :
    field? 2 (Text.padDigits 2 n ++ rest) = some (n, rest) := by
  rw [field?, trimStart_digits (fun d hd => Text.isDigit_of_mem_padDigits hd)
    (Text.padDigits_ne_nil 2 n)]
  exact number?_padDigits 1 h (Nat.le_refl 2) hrest

theorem field?_cons {n : Nat} {c : Char} (h : n < 100) (hc : Text.isDigit c = false)
    (rest : List Char) : field? 2 (Text.padDigits 2 n ++ c :: rest) = some (n, c :: rest) :=
  field?_padDigits h fun _ hd => Option.some.inj hd ▸ hc

theorem mark?_cons {m : Char} (h : Text.isBlank m = false) (rest : List Char) :
    mark? m (m :: rest) = some rest := by
  rw [mark?, Text.trimStart, List.dropWhile_cons_of_neg (by simp [h])]
  simp

/-- A year ends at the mark behind it. -/
theorem year?_yearChars (year : Int) (rest : List Char) :
    year? (yearChars year ++ '-' :: rest) = some (year, '-' :: rest) := by
  have hmark : ∀ c ∈ ('-' :: rest).head?, Text.isDigit c = false := by
    rintro c hc
    obtain rfl := Option.some.inj hc
    decide
  have hdigits : ∀ n, ∀ c ∈ Text.padDigits 4 n, Text.isDigit c = true := fun n c hc =>
    Text.isDigit_of_mem_padDigits hc
  by_cases h : 0 ≤ year ∧ year ≤ 9999
  · have hyear : year.toNat < 10 ^ (3 + 1) := by omega
    obtain ⟨d, ds, hd⟩ := List.exists_cons_of_ne_nil (Text.padDigits_ne_nil 4 year.toNat)
    have hdigit : Text.isDigit d = true := hdigits year.toNat d (by rw [hd]; exact .head _)
    have hminus : d ≠ '-' := by rintro rfl; exact absurd hdigit (by decide)
    have hplus : d ≠ '+' := by rintro rfl; exact absurd hdigit (by decide)
    have hread := number?_padDigits 3 hyear (Nat.le_refl 4) hmark
    rw [yearChars, if_pos h, year?, trimStart_digits (hdigits _) (Text.padDigits_ne_nil 4 _)]
    rw [hd, List.cons_append] at hread ⊢
    split
    · next heq => exact absurd (List.cons.inj heq).1 hminus
    · next heq => exact absurd (List.cons.inj heq).1 hplus
    · rw [hread]
      simp [Int.toNat_of_nonneg h.1]
  · have hread : number? (Text.padDigits 4 year.natAbs ++ '-' :: rest).length
        (Text.padDigits 4 year.natAbs ++ '-' :: rest) = some (year.natAbs, '-' :: rest) := by
      rw [number?_digits (hdigits _) hmark (Text.padDigits_ne_nil 4 _)
        (by rw [List.length_append]; omega), Text.digitsValue_padDigits]
    rw [yearChars, if_neg h, year?]
    by_cases hneg : year < 0
    · rw [if_pos hneg, Text.trimStart, List.cons_append,
        List.dropWhile_cons_of_neg (by decide)]
      simp only [hread, Option.map_some, Option.some.injEq, Prod.mk.injEq, and_true]
      omega
    · rw [if_neg hneg, Text.trimStart, List.cons_append,
        List.dropWhile_cons_of_neg (by decide)]
      simp only [hread, Option.map_some, Option.some.injEq, Prod.mk.injEq, and_true]
      omega

/-! ## Offsets -/

/-- A text ends in an offset of so many seconds: it is read as one, and cannot be taken for more of
a second. -/
structure IsOffset (offset : Int) (cs : List Char) : Prop where
  reads : offset? (Text.trimStart cs) = some (offset, [])
  nonempty : cs ≠ []
  head : ∀ c ∈ cs.head?, Text.isDigit c = false ∧ c ≠ '.'

theorem isOffset_utc : IsOffset 0 ['Z'] where
  reads := by decide
  nonempty := List.cons_ne_nil _ _
  head := by
    rintro c hc
    obtain rfl := Option.some.inj hc
    decide

/-! ## Fractions -/

section

variable {offset : Int} {rest : List Char} (hrest : IsOffset offset rest)
include hrest

/-- A fraction in some digits counts by its first. -/
theorem fraction?_padDigits (width : Nat) {n : Nat} (h : n < 10 ^ (width + 1))
    (hwidth : width + 1 ≤ 9) :
    fraction? ('.' :: Text.padDigits (width + 1) n ++ rest) =
      some (n * 10 ^ (9 - (width + 1)), rest) := by
  have hmark : ∀ c ∈ rest.head?, Text.isDigit c = false := fun c hc => (hrest.head c hc).1
  have hread := number?_padDigits width h hwidth hmark
  have hused : (Text.padDigits (width + 1) n ++ rest).length - rest.length = width + 1 := by
    simp [Text.length_padDigits h]
  have hdrop : rest.dropWhile Text.isDigit = rest := by
    rcases rest with _ | ⟨c, rest⟩
    · rfl
    · rw [List.dropWhile_cons_of_neg (by simp [hmark c rfl])]
  simp only [fraction?, List.cons_append, hread, Option.bind_eq_bind, Option.bind_some, hused,
    hdrop]
  rfl

/-- The fraction of a second loses nothing. -/
theorem fraction?_fractionChars {nanos : Nat} (h : nanos < 1000000000) :
    fraction? (fractionChars nanos ++ rest) = some (nanos, rest) := by
  rw [fractionChars]
  split
  · next hzero =>
    rw [hzero, List.nil_append, fraction?]
    rintro cs rfl
    exact (hrest.head '.' rfl).2 rfl
  · split
    · next hmilli =>
      rw [fraction?_padDigits hrest 2 (by omega) (by decide)]
      congr 2
      omega
    · split
      · next hmicro =>
        rw [fraction?_padDigits hrest 5 (by omega) (by decide)]
        congr 2
        omega
      · rw [fraction?_padDigits hrest 8 (by omega) (by decide)]
        simp

theorem head?_fractionChars (nanos : Nat) :
    ∀ c ∈ (fractionChars nanos ++ rest).head?, Text.isDigit c = false := by
  rintro c hc
  rw [fractionChars] at hc
  split at hc
  · exact (hrest.head c hc).1
  · repeat' split at hc
    all_goals
      obtain rfl := Option.some.inj hc
      decide

end

/-! ## Whole timestamps -/

theorem month_day_le {d : Date} (h : d.isValid = true) : d.month ≤ 12 ∧ d.day ≤ 31 := by
  simp only [Date.isValid, Bool.and_eq_true, decide_eq_true_eq] at h
  refine ⟨h.1.1.2, Nat.le_trans h.2 ?_⟩
  unfold Date.daysIn
  repeat' split
  all_goals decide

/-- A timestamp is read field by field, and stands for the time of day on its date, less the offset;
the 60th second is a leap second. -/
theorem read?_fields {date : Date} {hour minute second nanos : Nat} {u : Instant} {offset : Int}
    {zone : List Char} (hzone : IsOffset offset zone)
    (hvalid : date.isValid = true) (hyear : inYearRange date.year = true) (hhour : hour ≤ 23)
    (hminute : minute ≤ 59) (hsecond : second ≤ 60) (hnanos : nanos < 1000000000)
    (hu : Instant.ofDate date hour minute (second - if second = 60 then 1 else 0)
      (nanos + (if second = 60 then 1 else 0) * 1000000000) = u)
    (huyear : inYearRange (Instant.date ⟨u.seconds - offset, u.nanos⟩).year = true) :
    read? (yearChars date.year ++ '-' :: (Text.padDigits 2 date.month ++ '-' ::
      (Text.padDigits 2 date.day ++ 'T' :: (Text.padDigits 2 hour ++ ':' ::
      (Text.padDigits 2 minute ++ ':' :: (Text.padDigits 2 second ++
      (fractionChars nanos ++ zone))))))) = some ⟨u.seconds - offset, u.nanos⟩ := by
  obtain ⟨hmonth, hday⟩ := month_day_le hvalid
  have hdash : ∀ rest, mark? '-' ('-' :: rest) = some rest := mark?_cons (by decide)
  have hcolon : ∀ rest, mark? ':' (':' :: rest) = some rest := mark?_cons (by decide)
  have hsound : (!Text.isBlankText [] || !inYearRange date.year || !date.isValid || 23 < hour ||
      59 < minute || 60 < second) = false := by
    simp [hyear, hvalid, hhour, hminute, hsecond, Text.isBlankText]
  refine Option.bind_eq_some_iff.2 ⟨_, year?_yearChars _ _, ?_⟩
  refine Option.bind_eq_some_iff.2 ⟨_, hdash _, ?_⟩
  refine Option.bind_eq_some_iff.2 ⟨_, field?_cons (by omega) (by decide) _, ?_⟩
  refine Option.bind_eq_some_iff.2 ⟨_, hdash _, ?_⟩
  refine Option.bind_eq_some_iff.2 ⟨_, field?_cons (by omega) (by decide) _, ?_⟩
  refine (if_pos (.inl rfl)).trans (Option.bind_eq_some_iff.2 ⟨_, rfl, ?_⟩)
  refine Option.bind_eq_some_iff.2 ⟨_, field?_cons (by omega) (by decide) _, ?_⟩
  refine Option.bind_eq_some_iff.2 ⟨_, hcolon _, ?_⟩
  refine Option.bind_eq_some_iff.2 ⟨_, field?_cons (by omega) (by decide) _, ?_⟩
  refine Option.bind_eq_some_iff.2 ⟨_, hcolon _, ?_⟩
  refine Option.bind_eq_some_iff.2
    ⟨_, field?_padDigits (by omega) (head?_fractionChars hzone nanos), ?_⟩
  refine Option.bind_eq_some_iff.2 ⟨_, fraction?_fractionChars hzone hnanos, ?_⟩
  refine Option.bind_eq_some_iff.2 ⟨_, hzone.reads, ?_⟩
  refine (if_neg (Bool.not_eq_true _ ▸ hsound)).trans ?_
  simp only [hu, huyear, if_true]

/-- **A timestamp with any fraction is read as its second, with the fraction, less the offset.** -/
theorem read?_chars {t : Instant} (ht : t.Recordable) {nanos : Nat} (h : nanos < 1000000000)
    {offset : Int} {zone : List Char} (hzone : IsOffset offset zone)
    (hutc : inYearRange (Instant.date ⟨t.seconds - offset, t.nanos⟩).year = true) :
    read? (secondChars t ++ fractionChars nanos ++ zone) =
      some ⟨t.seconds - offset,
        nanos + (if t.nanos < 1000000000 then 0 else 1) * 1000000000⟩ := by
  have hs := t.secondOfDay_lt
  have hlast := ht.leap
  obtain ⟨leap, hleap⟩ : ∃ leap, (if t.nanos < 1000000000 then 0 else 1) = leap := ⟨_, rfl⟩
  -- The second that is read lies in the minute, and the fraction does not count for the day.
  have hof : ∀ n, Instant.ofDate t.date (t.secondOfDay / 3600) (t.secondOfDay / 60 % 60)
      (t.secondOfDay % 60) n = ⟨t.seconds, n⟩ := fun n =>
    congrArg (fun u : Instant => (⟨u.seconds, n⟩ : Instant)) t.ofDate_date
  have hle : t.secondOfDay % 60 + leap ≤ 60 := by
    rw [← hleap]
    split <;> omega
  have hsixty : (if t.secondOfDay % 60 + leap = 60 then 1 else 0) = leap := by
    rw [← hleap]
    split <;> split <;> omega
  have hinstant : Instant.ofDate t.date (t.secondOfDay / 3600) (t.secondOfDay / 60 % 60)
      (t.secondOfDay % 60 + leap - if t.secondOfDay % 60 + leap = 60 then 1 else 0)
      (nanos + (if t.secondOfDay % 60 + leap = 60 then 1 else 0) * 1000000000) =
      ⟨t.seconds, nanos + leap * 1000000000⟩ := by
    rw [hsixty, Nat.add_sub_cancel, hof]
  have hyear : ∀ n, inYearRange (Instant.date ⟨t.seconds - offset, n⟩).year = true := fun _ => hutc
  have hvalid : t.date.isValid = true := Date.isValid_ofDayNumber _
  rw [hleap, ← read?_fields hzone hvalid ht.year (by omega) (by omega) hle h hinstant (hyear _)]
  simp only [secondChars, hleap, List.append_assoc, List.cons_append]

end Rfc3339

namespace Instant

/-- **A timestamp is read as the instant that was written.** -/
theorem read?_text {t : Instant} (h : t.Recordable) : read? t.text = some t := by
  have hnanos := h.nanos
  have hutc : Rfc3339.inYearRange (date ⟨t.seconds - 0, t.nanos⟩).year = true := by
    rw [Int.sub_zero]
    exact h.year
  rw [read?, text, String.toList_ofList,
    Rfc3339.read?_chars h (Nat.mod_lt _ (by decide)) Rfc3339.isOffset_utc hutc, Int.sub_zero]
  congr 2
  split <;> omega

/-- A timestamp in whole seconds is read as the instant that was written, if that has no
fraction. -/
theorem read?_wholeText {t : Instant} (h : t.Recordable) (hwhole : t.nanos % 1000000000 = 0) :
    read? t.wholeText = some t := by
  have htext : t.wholeText = t.text := by
    rw [wholeText, text, hwhole]
    simp [Rfc3339.fractionChars]
  rw [htext, read?_text h]

end Instant

end NodeDeploy
