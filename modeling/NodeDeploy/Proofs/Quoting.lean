import NodeDeploy.Text.Quoted

/-! # Quoted texts can be read back

No character written inside quotes starts another one, so what stands between the quotes determines
the text.

* `hexDigits_injective`: a number is determined by its hexadecimal digits.
* `quoteChar_append_inj`: the first character of a quoted text can be split off.
* `quoted_injective`: different texts are quoted differently.
-/

namespace NodeDeploy

namespace Text

/-! ## Hexadecimal digits -/

theorem hexDigit_injective : ∀ m < 16, ∀ n < 16, hexDigit m = hexDigit n → m = n := by decide

theorem hexDigit_ne_brace : ∀ n < 16, hexDigit n ≠ '\x7d' := by decide

theorem hexDigits_of_lt {n : Nat} (h : n < 16) : hexDigits n = [hexDigit n] := by
  rw [hexDigits, dif_pos h]

theorem hexDigits_of_le {n : Nat} (h : ¬n < 16) :
    hexDigits n = hexDigits (n / 16) ++ [hexDigit (n % 16)] := by
  rw [hexDigits, dif_neg h]

theorem hexDigits_ne_nil (n : Nat) : hexDigits n ≠ [] := by
  by_cases h : n < 16
  · simp [hexDigits_of_lt h]
  · simp [hexDigits_of_le h]

theorem brace_notMem_hexDigits (n : Nat) : '\x7d' ∉ hexDigits n := by
  induction n using Nat.strongRecOn with
  | ind n ih =>
    by_cases h : n < 16
    · rw [hexDigits_of_lt h, List.mem_singleton]
      exact (hexDigit_ne_brace n h).symm
    · rw [hexDigits_of_le h, List.mem_append, List.mem_singleton]
      rintro (hmem | hlast)
      · exact ih (n / 16) (by omega) hmem
      · exact hexDigit_ne_brace (n % 16) (by omega) hlast.symm

/-- More digits than one are not one digit. -/
theorem hexDigits_ne_of_lt {m n : Nat} (hm : m < 16) (hn : ¬n < 16) :
    hexDigits m ≠ hexDigits n := by
  rw [hexDigits_of_lt hm, hexDigits_of_le hn]
  intro h
  have hlength := congrArg List.length h
  have hpos := List.length_pos_iff.2 (hexDigits_ne_nil (n / 16))
  simp only [List.length_singleton, List.length_append] at hlength
  omega

/-- **A number is determined by its digits.** -/
theorem hexDigits_injective {m n : Nat} (h : hexDigits m = hexDigits n) : m = n := by
  induction m using Nat.strongRecOn generalizing n with
  | ind m ih =>
    by_cases hm : m < 16 <;> by_cases hn : n < 16
    · rw [hexDigits_of_lt hm, hexDigits_of_lt hn, List.singleton_inj] at h
      exact hexDigit_injective m hm n hn h
    · exact absurd h (hexDigits_ne_of_lt hm hn)
    · exact absurd h.symm (hexDigits_ne_of_lt hn hm)
    · rw [hexDigits_of_le hm, hexDigits_of_le hn] at h
      obtain ⟨hinit, hlast⟩ := List.append_inj' h rfl
      have hdiv := ih (m / 16) (by omega) hinit
      have hmod := hexDigit_injective (m % 16) (by omega) (n % 16) (by omega)
        (List.singleton_inj.1 hlast)
      omega

/-! ## Characters -/

def escapes : List (Char × Char) :=
  [('"', '"'), ('\\', '\\'), ('n', '\n'), ('r', '\r'), ('t', '\t'), ('0', '\x00')]

theorem escapes_functional :
    ∀ x ∈ escapes, ∀ y ∈ escapes, x.1 = y.1 → x.2 = y.2 := by decide

theorem escapes_ne_u : ∀ x ∈ escapes, x.1 ≠ 'u' := by decide

/-- A character is written as itself, by a letter, or by its code point. -/
theorem quoteChar_cases (c : Char) : (quoteChar c = [c] ∧ c ≠ '\\') ∨
    (∃ letter, (letter, c) ∈ escapes ∧ quoteChar c = ['\\', letter]) ∨
    quoteChar c = '\\' :: 'u' :: '\x7b' :: (hexDigits c.toNat ++ ['\x7d']) := by
  have hletter {letter d : Char} (hc : c = d) (hmem : (letter, d) ∈ escapes)
      (hq : quoteChar d = ['\\', letter]) :
      ∃ letter, (letter, c) ∈ escapes ∧ quoteChar c = ['\\', letter] :=
    ⟨letter, hc ▸ hmem, hc ▸ hq⟩
  by_cases h₁ : c = '"'
  · exact .inr (.inl (hletter h₁ (by decide) rfl))
  by_cases h₂ : c = '\\'
  · exact .inr (.inl (hletter h₂ (by decide) rfl))
  by_cases h₃ : c = '\n'
  · exact .inr (.inl (hletter h₃ (by decide) rfl))
  by_cases h₄ : c = '\r'
  · exact .inr (.inl (hletter h₄ (by decide) rfl))
  by_cases h₅ : c = '\t'
  · exact .inr (.inl (hletter h₅ (by decide) rfl))
  by_cases h₆ : c = '\x00'
  · exact .inr (.inl (hletter h₆ (by decide) rfl))
  rw [quoteChar, if_neg h₁, if_neg h₂, if_neg h₃, if_neg h₄, if_neg h₅, if_neg h₆]
  split
  · exact .inl ⟨rfl, h₂⟩
  · exact .inr (.inr rfl)

/-- What stands before the first occurrence of a character can be split off. -/
theorem append_cons_inj {x : Char} {a b r s : List Char} (ha : x ∉ a) (hb : x ∉ b)
    (h : a ++ x :: r = b ++ x :: s) : a = b ∧ r = s := by
  induction a generalizing b with
  | nil =>
    cases b with
    | nil => exact ⟨rfl, List.tail_eq_of_cons_eq h⟩
    | cons y b =>
      simp only [List.nil_append, List.cons_append, List.cons.injEq] at h
      exact absurd (h.1 ▸ List.mem_cons_self) hb
  | cons z a ih =>
    cases b with
    | nil =>
      simp only [List.nil_append, List.cons_append, List.cons.injEq] at h
      exact absurd (h.1 ▸ List.mem_cons_self) ha
    | cons y b =>
      simp only [List.cons_append, List.cons.injEq] at h
      obtain ⟨rfl, h⟩ := h
      obtain ⟨rfl, rfl⟩ := ih (fun hx => ha (List.mem_cons_of_mem z hx))
        (fun hx => hb (List.mem_cons_of_mem z hx)) h
      exact ⟨rfl, rfl⟩

/-- **The first character of a quoted text can be split off.** -/
theorem quoteChar_append_inj {c d : Char} {r s : List Char}
    (h : quoteChar c ++ r = quoteChar d ++ s) : c = d ∧ r = s := by
  rcases quoteChar_cases c with ⟨hc, hcne⟩ | ⟨x, hx, hc⟩ | hc <;>
    rcases quoteChar_cases d with ⟨hd, hdne⟩ | ⟨y, hy, hd⟩ | hd <;>
    rw [hc, hd] at h <;>
    simp only [List.cons_append, List.nil_append, List.append_assoc, List.cons.injEq] at h
  · exact h
  · exact absurd h.1 hcne
  · exact absurd h.1 hcne
  · exact absurd h.1.symm hdne
  · exact ⟨escapes_functional _ hx _ hy h.2.1, h.2.2⟩
  · exact absurd h.2.1 (escapes_ne_u _ hx)
  · exact absurd h.1.symm hdne
  · exact absurd h.2.1.symm (escapes_ne_u _ hy)
  · obtain ⟨hdigits, hrest⟩ := append_cons_inj (brace_notMem_hexDigits _)
      (brace_notMem_hexDigits _) h.2.2.2
    exact ⟨Char.toNat_inj.1 (hexDigits_injective hdigits), hrest⟩

theorem quoteChar_ne_nil (c : Char) : quoteChar c ≠ [] := by
  rcases quoteChar_cases c with ⟨hc, -⟩ | ⟨x, -, hc⟩ | hc <;> simp [hc]

theorem quoteChars_injective {a b : List Char} (h : quoteChars a = quoteChars b) : a = b := by
  induction a generalizing b with
  | nil =>
    cases b with
    | nil => rfl
    | cons d b => exact absurd (List.append_eq_nil_iff.1 h.symm).1 (quoteChar_ne_nil d)
  | cons c a ih =>
    cases b with
    | nil => exact absurd (List.append_eq_nil_iff.1 h).1 (quoteChar_ne_nil c)
    | cons d b =>
      obtain ⟨rfl, hrest⟩ := quoteChar_append_inj h
      rw [ih hrest]

end Text

/-- **Different texts are quoted differently.** -/
theorem quoted_injective {s t : String} (h : quoted s = quoted t) : s = t := by
  have hlist := String.ofList_injective h
  simp only [List.cons_append, List.cons.injEq, true_and] at hlist
  exact String.toList_inj.1 (Text.quoteChars_injective (List.append_cancel_right hlist))

end NodeDeploy
