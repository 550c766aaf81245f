import Mathlib.Algebra.Group.Nat.Defs
import NodeDeploy.Text.Blank
import NodeDeploy.Text.Numeral

/-! # Numerals are read as they were written

The digits of a number have its value again, with or without leading zeros, and a reader of digits
takes all of them and no more.

* `digitsValue_writeDigits` and `digitsValue_padDigits`: the value of what was written.
* `head?_writeDigits`: no number but zero begins with a zero.
* `length_padDigits`: a number that fits a width takes exactly the width.
* `takeWhile_digits` and `dropWhile_digits`: digits end where none follows.
-/

namespace NodeDeploy.Text

/-! ## One digit -/

theorem isDigit_digit : ∀ n < 10, isDigit (Char.ofNat (48 + n)) = true := by decide

theorem digitValue_digit : ∀ n < 10, digitValue (Char.ofNat (48 + n)) = n := by decide

theorem digit_ne_zero : ∀ n < 10, n ≠ 0 → Char.ofNat (48 + n) ≠ '0' := by decide

theorem isBlank_of_isDigit {c : Char} (h : isDigit c = true) : isBlank c = false := by
  simp only [isDigit, Bool.and_eq_true, decide_eq_true_eq] at h
  simp only [isBlank, Bool.or_eq_false_iff, Bool.and_eq_false_iff, decide_eq_false_iff_not,
    beq_eq_false_iff_ne]
  omega

theorem ne_of_isDigit {c d : Char} (h : isDigit c = true) (hd : isDigit d = false) : c ≠ d := by
  rintro rfl
  rw [h] at hd
  cases hd

/-! ## The digits of a number -/

theorem digitsValue_append (n : Nat) (cs ds : List Char) :
    digitsValue n (cs ++ ds) = digitsValue (digitsValue n cs) ds := List.foldl_append

theorem isDigit_of_mem_writeDigits {n : Nat} {c : Char} (h : c ∈ writeDigits n) :
    isDigit c = true := by
  fun_induction writeDigits n with
  | case1 n hn =>
    obtain rfl := List.mem_singleton.1 h
    exact isDigit_digit n hn
  | case2 n hn ih =>
    rcases List.mem_append.1 h with h | h
    · exact ih h
    · obtain rfl := List.mem_singleton.1 h
      exact isDigit_digit _ (by omega)

/-- **The digits of a number have its value.** -/
theorem digitsValue_writeDigits (n : Nat) : digitsValue 0 (writeDigits n) = n := by
  fun_induction writeDigits n with
  | case1 n hn => simp [digitsValue, digitValue_digit n hn]
  | case2 n hn ih =>
    have hlast := digitValue_digit (n % 10) (by omega)
    rw [digitsValue_append, ih]
    simp only [digitsValue, List.foldl_cons, List.foldl_nil, hlast]
    omega

theorem length_writeDigits_pos (n : Nat) : 0 < (writeDigits n).length := by
  rw [writeDigits]
  split <;> simp

theorem length_writeDigits_le {n k : Nat} (h : n < 10 ^ (k + 1)) :
    (writeDigits n).length ≤ k + 1 := by
  induction k generalizing n with
  | zero => rw [writeDigits, dif_pos (by omega)]; simp
  | succ k ih =>
    rw [writeDigits]
    split
    · simp
    · have hk : n / 10 < 10 ^ (k + 1) := by
        rw [Nat.div_lt_iff_lt_mul (by decide)]
        rwa [Nat.pow_succ] at h
      have := ih hk
      simp only [List.length_append, List.length_cons, List.length_nil]
      omega

/-- Only zero begins with a zero. -/
theorem head?_writeDigits {n : Nat} (h : n ≠ 0) : (writeDigits n).head? ≠ some '0' := by
  fun_induction writeDigits n with
  | case1 n hn =>
    intro hhead
    exact digit_ne_zero n hn h (Option.some.inj hhead)
  | case2 n hn ih =>
    obtain ⟨c, cs, hc⟩ := List.exists_cons_of_length_pos (length_writeDigits_pos (n / 10))
    have hhead := ih (by omega)
    rw [hc] at hhead ⊢
    exact hhead

theorem le_digitsValue (n : Nat) (ds : List Char) : n ≤ digitsValue n ds := by
  induction ds generalizing n with
  | nil => exact Nat.le_refl n
  | cons d ds ih => exact Nat.le_trans (by omega) (ih (n * 10 + digitValue d))

/-- Digits behind others have a value with no carry into those. -/
theorem digitsValue_lt {ds : List Char} (h : ∀ c ∈ ds, isDigit c = true) (n : Nat) :
    digitsValue n ds < (n + 1) * 10 ^ ds.length := by
  induction ds generalizing n with
  | nil => simp [digitsValue]
  | cons d ds ih =>
    have hd : digitValue d ≤ 9 := by
      have hdigit := h d List.mem_cons_self
      simp only [isDigit, Bool.and_eq_true, decide_eq_true_eq] at hdigit
      unfold digitValue
      omega
    have hrest := ih (fun c hc => h c (List.mem_cons_of_mem d hc)) (n * 10 + digitValue d)
    calc digitsValue n (d :: ds) = digitsValue (n * 10 + digitValue d) ds := rfl
      _ < (n * 10 + digitValue d + 1) * 10 ^ ds.length := hrest
      _ ≤ (n + 1) * 10 * 10 ^ ds.length := Nat.mul_le_mul_right _ (by omega)
      _ = (n + 1) * 10 ^ (d :: ds).length := by rw [List.length_cons, Nat.pow_succ', Nat.mul_assoc]

/-! ## Leading zeros -/

theorem digitsValue_zeros (k : Nat) : digitsValue 0 (List.replicate k '0') = 0 := by
  have hzero : digitValue '0' = 0 := by decide
  induction k with
  | zero => rfl
  | succ k ih =>
    rw [List.replicate_succ]
    simpa [digitsValue, hzero] using ih

theorem isDigit_of_mem_padDigits {width n : Nat} {c : Char} (h : c ∈ padDigits width n) :
    isDigit c = true := by
  rcases List.mem_append.1 h with h | h
  · obtain rfl := List.eq_of_mem_replicate h
    decide
  · exact isDigit_of_mem_writeDigits h

theorem digitsValue_padDigits (width n : Nat) : digitsValue 0 (padDigits width n) = n := by
  rw [padDigits, digitsValue_append, digitsValue_zeros, digitsValue_writeDigits]

theorem length_padDigits {width n : Nat} (h : n < 10 ^ (width + 1)) :
    (padDigits (width + 1) n).length = width + 1 := by
  have := length_writeDigits_le h
  simp only [padDigits, List.length_append, List.length_replicate]
  omega

theorem padDigits_ne_nil (width n : Nat) : padDigits width n ≠ [] := by
  have := length_writeDigits_pos n
  refine List.ne_nil_of_length_pos ?_
  simp only [padDigits, List.length_append]
  omega

/-! ## Reading digits -/

section

variable {ds rest : List Char} (hds : ∀ c ∈ ds, isDigit c = true)
  (hrest : ∀ c ∈ rest.head?, isDigit c = false)
include hds hrest

theorem takeWhile_digits : (ds ++ rest).takeWhile isDigit = ds := by
  rw [List.takeWhile_append_of_pos hds]
  cases rest with
  | nil => simp
  | cons c rest => simp [hrest c rfl]

theorem dropWhile_digits : (ds ++ rest).dropWhile isDigit = rest := by
  rw [List.dropWhile_append_of_pos hds]
  cases rest with
  | nil => rfl
  | cons c rest => simp [hrest c rfl]

end

end NodeDeploy.Text
