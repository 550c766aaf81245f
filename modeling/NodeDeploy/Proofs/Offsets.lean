import NodeDeploy.Proofs.Timestamps

/-! # Timestamps with an offset

A timestamp may name an instant by the time that clocks show at an offset from UTC. Whatever the
offset, it is read as the instant itself; and whatever is read, with an offset or without, blanks
included, is an instant that a timestamp in UTC can name as well.

* `UtcOffset` is an offset in hours and minutes, and `Instant.textAt` the timestamp of an instant at
  an offset.
* `Instant.read?_textAt`: that timestamp is read as the instant.
* `Rfc3339.recordable_of_read?`: what is read can be recorded.
-/

namespace NodeDeploy

/-- An offset from UTC in hours and minutes, to the east or to the west. -/
structure UtcOffset where
  east : Bool
  hours : Nat
  minutes : Nat
  hours_lt : hours < 24
  minutes_lt : minutes < 60

namespace UtcOffset

/-- How many seconds clocks are ahead of those in UTC. -/
def seconds (o : UtcOffset) : Int :=
  (if o.east then 1 else -1) * (o.hours * 3600 + o.minutes * 60 : Nat)

def chars (o : UtcOffset) : List Char :=
  (if o.east then '+' else '-') :: (Text.padDigits 2 o.hours ++ ':' :: Text.padDigits 2 o.minutes)

/-- Two digits, and the number that they are read as. -/
theorem exists_padDigits {n : Nat} (h : n < 100) : ∃ c d, Text.padDigits 2 n = [c, d] ∧
    Text.isDigit c = true ∧ Text.readDigits? [c, d] = some n := by
  have hlength : (Text.padDigits 2 n).length = 2 := @Text.length_padDigits 1 n h
  have hvalue := Text.digitsValue_padDigits 2 n
  have hdigits : ∀ c ∈ Text.padDigits 2 n, Text.isDigit c = true := fun c hc =>
    Text.isDigit_of_mem_padDigits hc
  obtain ⟨c, d, hcd⟩ : ∃ c d, Text.padDigits 2 n = [c, d] := by
    match hds : Text.padDigits 2 n, hlength with
    | [c, d], _ => exact ⟨c, d, rfl⟩
  rw [hcd] at hvalue hdigits
  refine ⟨c, d, hcd, hdigits c List.mem_cons_self, ?_⟩
  rw [Text.readDigits?, List.all_eq_true.2 hdigits, hvalue]
  rfl

/-- A sign does not begin the word for UTC. -/
theorem word_ne {c : Char} (h : c ≠ 'U') (cs : List Char) : String.ofList (c :: cs) ≠ "UTC" := by
  intro heq
  have hchars : c :: cs = ['U', 'T', 'C'] := by
    rw [← String.toList_ofList (l := c :: cs), heq]
    rfl
  exact h (List.cons.inj hchars).1

/-- **An offset is read as it was written.** -/
theorem isOffset_chars (o : UtcOffset) : Rfc3339.IsOffset o.seconds o.chars := by
  have hhours := o.hours_lt
  have hminutes := o.minutes_lt
  obtain ⟨h₁, h₂, hh, -, hreadh⟩ := exists_padDigits (show o.hours < 100 by omega)
  obtain ⟨m₁, m₂, hm, hdigit, hreadm⟩ := exists_padDigits (show o.minutes < 100 by omega)
  have hbehind : ([':', m₁, m₂].dropWhile fun c => c = ':' || Text.isBlank c) = [m₁, m₂] := by
    have hblank := Text.isBlank_of_isDigit hdigit
    have hcolon : m₁ ≠ ':' := by
      rintro rfl
      exact absurd hdigit (by decide)
    simp [hblank, hcolon]
  have hbounds : o.minutes < 60 ∧ o.hours < 24 := ⟨hminutes, hhours⟩
  have hsigns : Text.isBlank '+' = false ∧ Text.isBlank '-' = false := by decide
  refine ⟨?_, List.cons_ne_nil _ _, ?_⟩
  · rw [chars, seconds, hh, hm]
    cases o.east <;>
      simp [-String.ofList_cons, Text.trimStart, hsigns, Rfc3339.offset?, word_ne, hreadh, hreadm,
        hbehind, hbounds]
  · rintro c hc
    obtain rfl := Option.some.inj hc
    cases o.east <;> decide

end UtcOffset

namespace Rfc3339

/-- A number has no more value than the digits that are read have room for. -/
theorem number?_lt {most n : Nat} {cs rest : List Char} (h : number? most cs = some (n, rest)) :
    cs.length - rest.length ≤ most ∧ n < 10 ^ (cs.length - rest.length) := by
  obtain ⟨value, hvalue, hpair⟩ := Option.map_eq_some_iff.1 h
  obtain ⟨rfl, rfl⟩ := Prod.mk.inj hpair
  generalize hds : (cs.take most).takeWhile Text.isDigit = ds at hvalue
  have hle : ds.length ≤ (cs.take most).length := hds ▸ (List.takeWhile_sublist _).length_le
  rw [List.length_take] at hle
  have hdigits : ∀ c ∈ ds, Text.isDigit c = true := by
    rw [← hds]
    exact List.all_eq_true.1 List.all_takeWhile
  rw [List.length_drop, show cs.length - (cs.length - ds.length) = ds.length by omega]
  refine ⟨by omega, ?_⟩
  rw [Text.readDigits?] at hvalue
  split at hvalue
  · cases hvalue
  · obtain rfl := Option.some.inj hvalue
    simpa using Text.digitsValue_lt hdigits 0

theorem fraction?_lt {nanos : Nat} {cs rest : List Char} (h : fraction? cs = some (nanos, rest)) :
    nanos < 1000000000 := by
  unfold fraction? at h
  split at h
  · next cs =>
    obtain ⟨⟨n, tail⟩, hread, hpair⟩ := Option.bind_eq_some_iff.1 h
    obtain ⟨hused, hn⟩ := number?_lt hread
    obtain ⟨rfl, -⟩ := Prod.mk.inj (Option.some.inj hpair)
    generalize cs.length - tail.length = used at hused hn
    calc n * 10 ^ (9 - used) < 10 ^ used * 10 ^ (9 - used) :=
          Nat.mul_lt_mul_of_pos_right hn (Nat.pow_pos (by decide))
      _ = 10 ^ 9 := by rw [← Nat.pow_add, Nat.add_sub_cancel' hused]
  · obtain ⟨rfl, -⟩ := Prod.mk.inj (Option.some.inj h)
    decide

/-- An offset is a number of minutes. -/
theorem offset?_mod {offset : Int} {cs rest : List Char} (h : offset? cs = some (offset, rest)) :
    offset % 60 = 0 := by
  unfold offset? at h
  split at h
  · obtain ⟨rfl, -⟩ := Prod.mk.inj (Option.some.inj h)
    rfl
  · obtain ⟨rfl, -⟩ := Prod.mk.inj (Option.some.inj h)
    rfl
  · cases h
  · dsimp only at h
    split at h
    · obtain ⟨rfl, -⟩ := Prod.mk.inj (Option.some.inj h)
      rfl
    · repeat' split at h
      any_goals contradiction
      obtain ⟨rfl, -⟩ := Prod.mk.inj (Option.some.inj h)
      exact Int.emod_eq_zero_of_dvd (Int.dvd_mul_of_dvd_right (by omega))

/-- **What is read can be recorded.** -/
theorem recordable_of_read? {cs : List Char} {t : Instant} (h : read? cs = some t) :
    t.Recordable := by
  obtain ⟨⟨year, cs⟩, -, h⟩ := Option.bind_eq_some_iff.1 h
  obtain ⟨cs, -, h⟩ := Option.bind_eq_some_iff.1 h
  obtain ⟨⟨month, cs⟩, -, h⟩ := Option.bind_eq_some_iff.1 h
  obtain ⟨cs, -, h⟩ := Option.bind_eq_some_iff.1 h
  obtain ⟨⟨day, cs⟩, -, h⟩ := Option.bind_eq_some_iff.1 h
  dsimp only at h
  split at h
  case h_2 => cases h
  split at h
  case isFalse => cases h
  obtain ⟨cs, -, h⟩ := Option.bind_eq_some_iff.1 h
  obtain ⟨⟨hour, cs⟩, -, h⟩ := Option.bind_eq_some_iff.1 h
  obtain ⟨cs, -, h⟩ := Option.bind_eq_some_iff.1 h
  obtain ⟨⟨minute, cs⟩, -, h⟩ := Option.bind_eq_some_iff.1 h
  obtain ⟨cs, -, h⟩ := Option.bind_eq_some_iff.1 h
  obtain ⟨⟨second, cs⟩, -, h⟩ := Option.bind_eq_some_iff.1 h
  obtain ⟨⟨nanos, cs⟩, hfraction, h⟩ := Option.bind_eq_some_iff.1 h
  obtain ⟨⟨offset, cs⟩, hoffset, h⟩ := Option.bind_eq_some_iff.1 h
  have hnanos := fraction?_lt hfraction
  have hminutes := offset?_mod hoffset
  dsimp only at h
  split at h
  case isTrue => cases h
  -- A leap second is read as the second before it, whatever the offset.
  obtain ⟨leap, hleap⟩ : ∃ leap, (if second = 60 then 1 else 0) = leap := ⟨_, rfl⟩
  rw [hleap] at h
  split at h
  case isFalse => cases h
  next hyear =>
  obtain rfl := Option.some.inj h
  refine ⟨hyear, ?_, fun hlast => ?_⟩
  · simp only [Instant.ofDate]
    split at hleap <;> omega
  · simp only [Instant.ofDate, Instant.secondOfDay] at hlast ⊢
    split at hleap <;> omega

end Rfc3339

namespace Instant

/-- What clocks at an offset show at an instant, as clocks in UTC would show it. -/
def shifted (t : Instant) (o : UtcOffset) : Instant := ⟨t.seconds + o.seconds, t.nanos⟩

def textAt (t : Instant) (o : UtcOffset) : String :=
  String.ofList (Rfc3339.secondChars (t.shifted o) ++
    Rfc3339.fractionChars (t.nanos % 1000000000) ++ o.chars)

/-- **A timestamp at an offset is read as the instant that it was written for.** -/
theorem read?_textAt {t : Instant} {o : UtcOffset} (h : t.Recordable)
    (hlocal : (t.shifted o).Recordable) : read? (t.textAt o) = some t := by
  have hnanos := h.nanos
  have hseconds : (t.shifted o).seconds - o.seconds = t.seconds := Int.add_sub_cancel _ _
  have hutc : Rfc3339.inYearRange
      (date ⟨(t.shifted o).seconds - o.seconds, (t.shifted o).nanos⟩).year = true := by
    rw [hseconds]
    exact h.year
  rw [read?, textAt, String.toList_ofList,
    Rfc3339.read?_chars hlocal (Nat.mod_lt _ (by decide)) o.isOffset_chars hutc, hseconds]
  have hsame : (t.shifted o).nanos = t.nanos := rfl
  congr 2
  rw [hsame]
  split <;> omega

end Instant

end NodeDeploy
