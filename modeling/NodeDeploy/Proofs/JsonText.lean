import NodeDeploy.Json.Parser
import NodeDeploy.Json.Printer
import NodeDeploy.Proofs.Numerals

/-! # JSON text is read as it was written

The text of a value is read as that value again, whatever is in its strings, provided that its
numbers are whole and have at most 64 bits, and nothing in it is garbled.

* `stringRest?_escaped`: a string is read as it was written, character by character.
* `number?_intChars`: so is a whole number, with text behind it that does not continue it.
* `value?_chars`, `items?_itemsChars` and `members?_membersChars`: so is each part of a value, with
  any text behind it.
* `parse?_text`: so is a whole value.
-/

namespace NodeDeploy.Json

/-! ## Values in whole numbers -/

mutual

/-- Whether a value has no numbers but whole ones of at most 64 bits, and no garbled parts. -/
def Plain : Json → Prop
  | .int n => -0x8000000000000000 ≤ n ∧ n < 0x10000000000000000
  | .real _ => False
  | .garbled => False
  | .arr items => ItemsPlain items
  | .obj members => MembersPlain members
  | _ => True

def ItemsPlain : List Json → Prop
  | [] => True
  | j :: rest => Plain j ∧ ItemsPlain rest

def MembersPlain : List (String × Json) → Prop
  | [] => True
  | (_, j) :: rest => Plain j ∧ MembersPlain rest

end

mutual

instance decidablePlain : (j : Json) → Decidable j.Plain
  | .null => .isTrue trivial
  | .bool _ => .isTrue trivial
  | .int n => inferInstanceAs (Decidable (-0x8000000000000000 ≤ n ∧ n < 0x10000000000000000))
  | .real _ => .isFalse id
  | .str _ => .isTrue trivial
  | .arr items => decidableItemsPlain items
  | .obj members => decidableMembersPlain members
  | .garbled => .isFalse id

instance decidableItemsPlain : (items : List Json) → Decidable (ItemsPlain items)
  | [] => .isTrue trivial
  | j :: rest => @instDecidableAnd _ _ (decidablePlain j) (decidableItemsPlain rest)

instance decidableMembersPlain : (members : List (String × Json)) → Decidable (MembersPlain members)
  | [] => .isTrue trivial
  | (_, j) :: rest => @instDecidableAnd _ _ (decidablePlain j) (decidableMembersPlain rest)

end

theorem itemsPlain_map {α : Type} {f : α → Json} {l : List α} (h : ∀ x ∈ l, (f x).Plain) :
    ItemsPlain (l.map f) := by
  induction l with
  | nil => trivial
  | cons x l ih =>
    exact ⟨h x List.mem_cons_self, ih fun y hy => h y (List.mem_cons_of_mem x hy)⟩

/-! ## Strings -/

theorem hexValue?_hexDigit : ∀ n < 16, hexValue? (Text.hexDigit n) = some n := by decide

/-- Four digits are enough for a control character. -/
theorem hex4?_control {n : Nat} (h : n < 0x20) :
    hex4? '0' '0' (Text.hexDigit (n / 16)) (Text.hexDigit (n % 16)) = some n := by
  have hzero : hexValue? '0' = some 0 := by decide
  simp only [hex4?, hzero, hexValue?_hexDigit (n / 16) (by omega),
    hexValue?_hexDigit (n % 16) (by omega), Option.bind_eq_bind, Option.bind_some]
  congr 1
  omega

theorem unit?_control {c : Char} (h : c.toNat < 0x20) (rest : List Char) :
    unit? c.toNat rest = some (c, rest) := by
  rw [unit?.eq_def, if_neg (by omega), if_neg (by omega), Char.ofNat_toNat]

/-- How a character is written: by a letter behind a backslash, by its number, or as it is. -/
theorem escapeChar_cases (c : Char) :
    (∃ letter, escapeChar c = ['\\', letter] ∧ escaped? letter = some c) ∨
    (c.toNat < 0x20 ∧ escapeChar c =
      ['\\', 'u', '0', '0', Text.hexDigit (c.toNat / 16), Text.hexDigit (c.toNat % 16)]) ∨
    (c ≠ '"' ∧ c ≠ '\\' ∧ ¬c.toNat < 0x20 ∧ escapeChar c = [c]) := by
  by_cases hc : c ∈ ['"', '\\', '\n', '\r', '\t', '\x08', '\x0c']
  · simp only [List.mem_cons, List.not_mem_nil, or_false] at hc
    rcases hc with rfl | rfl | rfl | rfl | rfl | rfl | rfl <;> exact .inl ⟨_, rfl, by decide⟩
  · simp only [List.mem_cons, List.not_mem_nil, or_false, not_or] at hc
    by_cases hcontrol : c.toNat < 0x20
    · exact .inr (.inl ⟨hcontrol, by simp [escapeChar, hc, hcontrol]⟩)
    · exact .inr (.inr ⟨hc.1, hc.2.1, hcontrol, by simp [escapeChar, hc, hcontrol]⟩)

/-- A letter behind a backslash is read as what it stands for. -/
theorem stringRest?_letter {steps : Nat} {cs tail rest : List Char} {letter c : Char}
    (hc : escaped? letter = some c) (h : stringRest? steps cs = some (some tail, rest)) :
    stringRest? (steps + 1) ('\\' :: letter :: cs) = some (some (c :: tail), rest) := by
  have hnone : escaped? 'u' = none := by decide
  have hu : letter ≠ 'u' := by
    rintro rfl
    rw [hnone] at hc
    cases hc
  simp [stringRest?, hu, hc, h]

/-- A character is read as it was written, with whatever is read behind it. -/
theorem stringRest?_escapeChar {steps : Nat} {cs tail rest : List Char}
    (h : stringRest? steps cs = some (some tail, rest)) (c : Char) :
    stringRest? (steps + 1) (escapeChar c ++ cs) = some (some (c :: tail), rest) := by
  rcases escapeChar_cases c with ⟨letter, he, hc⟩ | ⟨hc, he⟩ | ⟨hquote, hslash, hc, he⟩ <;> rw [he]
  · exact stringRest?_letter hc h
  · simp [stringRest?, hex4?_control hc, unit?_control hc, h]
  · simp [stringRest?, hquote, hslash, hc, h]

theorem stringRest?_escaped (cs rest : List Char) {steps : Nat} (h : cs.length < steps) :
    stringRest? steps (cs.flatMap escapeChar ++ '"' :: rest) = some (some cs, rest) := by
  induction cs generalizing steps with
  | nil =>
    obtain ⟨steps, rfl⟩ := Nat.exists_eq_add_of_lt h
    simp [stringRest?]
  | cons c cs ih =>
    obtain ⟨steps, rfl⟩ : ∃ n, steps = n + 1 := ⟨steps - 1, by omega⟩
    rw [List.flatMap_cons, List.append_assoc]
    exact stringRest?_escapeChar (ih (by simpa using h)) c

theorem length_escapeChar_pos (c : Char) : 0 < (escapeChar c).length := by
  rcases escapeChar_cases c with ⟨letter, he, -⟩ | ⟨-, he⟩ | ⟨-, -, -, he⟩ <;> simp [he]

theorem length_le_flatMap_escapeChar (cs : List Char) :
    cs.length ≤ (cs.flatMap escapeChar).length := by
  induction cs with
  | nil => exact Nat.le_refl 0
  | cons c cs ih =>
    have hc := length_escapeChar_pos c
    simp only [List.flatMap_cons, List.length_cons, List.length_append]
    omega

/-- A string is read as it was written, behind its opening quote. -/
theorem string?_stringChars (s : String) (rest : List Char) :
    string? (s.toList.flatMap escapeChar ++ '"' :: rest) = some (some s, rest) := by
  have hlength := length_le_flatMap_escapeChar s.toList
  have hsteps : s.toList.length <
      (s.toList.flatMap escapeChar ++ '"' :: rest).length + 1 := by
    rw [List.length_append]
    omega
  rw [string?, stringRest?_escaped s.toList rest hsteps]
  simp

/-! ## Whole numbers -/

/-- What may stand behind a value: nothing, or a mark that ends it. -/
def Ends (rest : List Char) : Prop := ∀ c ∈ rest.head?, c = ',' ∨ c = ']' ∨ c = '\x7d'

theorem Ends.nil : Ends [] := by
  rintro c hc
  cases hc

theorem Ends.cons {c : Char} (h : c = ',' ∨ c = ']' ∨ c = '\x7d') (rest : List Char) :
    Ends (c :: rest) := by
  rintro d hd
  obtain rfl := Option.some.inj hd
  exact h

theorem Ends.isDigit {rest : List Char} (h : Ends rest) :
    ∀ c ∈ rest.head?, Text.isDigit c = false := by
  intro c hc
  rcases h c hc with rfl | rfl | rfl <;> decide

theorem Ends.fraction? {rest : List Char} (h : Ends rest) : fraction? rest = some (none, rest) := by
  cases rest with
  | nil => rfl
  | cons c rest => rcases h c rfl with rfl | rfl | rfl <;> rfl

theorem Ends.exponent? {rest : List Char} (h : Ends rest) : exponent? rest = some (none, rest) := by
  cases rest with
  | nil => rfl
  | cons c rest => rcases h c rfl with rfl | rfl | rfl <;> rfl

/-- Digits are taken as long as their number has at most 64 bits. -/
theorem leading_digits (ds : List Char) (n : Nat) (h : Text.digitsValue n ds < Nat.pow 2 64) :
    leading n ds = (Text.digitsValue n ds, []) := by
  induction ds generalizing n with
  | nil => rfl
  | cons d ds ih =>
    have hd : n * 10 + Text.digitValue d < Nat.pow 2 64 :=
      Nat.lt_of_le_of_lt (Text.le_digitsValue _ ds) h
    rw [leading]
    simp only [hd, if_true]
    exact ih _ h

theorem unsigned?_writeDigits (negative : Bool) (n : Nat) {rest : List Char}
    (hrest : Ends rest) :
    unsigned? negative (Text.writeDigits n ++ rest) =
      some (numberOf negative (Text.writeDigits n) [] none, rest) := by
  have hds : ∀ c ∈ Text.writeDigits n, Text.isDigit c = true := fun c hc =>
    Text.isDigit_of_mem_writeDigits hc
  have hempty : (Text.writeDigits n).isEmpty = false :=
    List.isEmpty_eq_false_iff.2 (List.ne_nil_of_length_pos (Text.length_writeDigits_pos n))
  have hzero : ¬((Text.writeDigits n).head? = some '0' ∧ 1 < (Text.writeDigits n).length) := by
    rintro ⟨hhead, hlength⟩
    by_cases hn : n = 0
    · subst hn
      rw [Text.writeDigits] at hlength
      simp at hlength
    · exact Text.head?_writeDigits hn hhead
  simp only [unsigned?, digits, Text.takeWhile_digits hds hrest.isDigit,
    Text.dropWhile_digits hds hrest.isDigit, hempty, hrest.fraction?]
  simp [hzero, hrest.exponent?]

/-- A number of at most 64 bits is kept as it is. -/
theorem numberOf_writeDigits {n : Nat} (h : n < Nat.pow 2 64) :
    numberOf false (Text.writeDigits n) [] none = .int n := by
  have hvalue : leading 0 (Text.writeDigits n) = (n, []) := by
    have hdigits := Text.digitsValue_writeDigits n
    rw [leading_digits _ 0 (by rwa [hdigits]), hdigits]
  simp [numberOf, hvalue]

/-- A number below zero is kept as it is if it has at most 64 bits with its sign. -/
theorem numberOf_neg_writeDigits {n : Nat} (hpos : 0 < n) (h : n ≤ Nat.pow 2 63) :
    numberOf true (Text.writeDigits n) [] none = .int (-n) := by
  have hpow : Nat.pow 2 63 < Nat.pow 2 64 := by decide
  have hvalue : leading 0 (Text.writeDigits n) = (n, []) := by
    have hdigits := Text.digitsValue_writeDigits n
    rw [leading_digits _ 0 (by rw [hdigits]; exact Nat.lt_of_le_of_lt h hpow), hdigits]
  simp only [numberOf, hvalue]
  simp [hpos, h]

theorem isSpace_of_isDigit {c : Char} (h : Text.isDigit c = true) : isSpace c = false := by
  have hne : ∀ d, Text.isDigit d = false → c ≠ d := fun d => Text.ne_of_isDigit h
  simp [isSpace, hne ' ' (by decide), hne '\n' (by decide), hne '\r' (by decide),
    hne '\t' (by decide)]

theorem intChars_eq_cons (n : Int) :
    ∃ c cs, intChars n = c :: cs ∧ (c = '-' ∨ Text.isDigit c = true) := by
  cases n with
  | ofNat n =>
    obtain ⟨c, cs, hc⟩ := List.exists_cons_of_length_pos (Text.length_writeDigits_pos n)
    exact ⟨c, cs, hc, .inr (Text.isDigit_of_mem_writeDigits (hc ▸ List.mem_cons_self))⟩
  | negSucc n => exact ⟨_, _, rfl, .inl rfl⟩

/-- A whole number is read as it was written. -/
theorem number?_intChars {n : Int} (h : (Json.int n).Plain) {rest : List Char} (hrest : Ends rest) :
    number? (intChars n ++ rest) = some (.int n, rest) := by
  have hpow : Nat.pow 2 64 = 0x10000000000000000 ∧ Nat.pow 2 63 = 0x8000000000000000 := by decide
  obtain ⟨hlow, hhigh⟩ := h
  cases n with
  | ofNat n =>
    obtain ⟨c, cs, hc⟩ := List.exists_cons_of_length_pos (Text.length_writeDigits_pos n)
    have hdigit : Text.isDigit c = true :=
      Text.isDigit_of_mem_writeDigits (hc ▸ List.mem_cons_self)
    have hread := unsigned?_writeDigits false n hrest
    have hn : n < Nat.pow 2 64 := by
      rw [hpow.1]
      exact Int.ofNat_lt.1 hhigh
    rw [numberOf_writeDigits hn] at hread
    rw [intChars]
    rw [hc, List.cons_append] at hread ⊢
    rw [number?]
    · exact hread
    · rintro cs' heq
      exact Text.ne_of_isDigit hdigit (by decide) (List.cons.inj heq).1
  | negSucc n =>
    have hn : n + 1 ≤ Nat.pow 2 63 := by
      rw [hpow.2]
      omega
    rw [intChars, List.cons_append, number?, unsigned?_writeDigits true _ hrest,
      numberOf_neg_writeDigits (Nat.succ_pos n) hn]
    rfl

/-! ## Values -/

/-- The text of a value begins with a character that is neither a blank nor a closing bracket. -/
theorem chars_eq_cons {j : Json} (h : j.Plain) :
    ∃ c cs, chars j = c :: cs ∧ isSpace c = false ∧ c ≠ ']' := by
  cases j with
  | null => exact ⟨_, _, rfl, by decide, by decide⟩
  | bool b => cases b <;> exact ⟨_, _, rfl, by decide, by decide⟩
  | str s => exact ⟨_, _, rfl, by decide, by decide⟩
  | arr items => exact ⟨_, _, rfl, by decide, by decide⟩
  | obj members => exact ⟨_, _, rfl, by decide, by decide⟩
  | int n =>
    obtain ⟨c, cs, hc, hstart⟩ := intChars_eq_cons n
    refine ⟨c, cs, hc, ?_⟩
    rcases hstart with rfl | hstart
    · decide
    · exact ⟨isSpace_of_isDigit hstart, Text.ne_of_isDigit hstart (by decide)⟩
  | real x => exact h.elim
  | garbled => exact h.elim

theorem itemsChars_eq_cons {j : Json} {items : List Json} (h : ItemsPlain (j :: items)) :
    ∃ c cs, itemsChars (j :: items) = c :: cs ∧ isSpace c = false ∧ c ≠ ']' := by
  obtain ⟨c, cs, hc, hspace, hclose⟩ := chars_eq_cons h.1
  cases items with
  | nil => exact ⟨c, cs, hc, hspace, hclose⟩
  | cons k items =>
    refine ⟨c, cs ++ ',' :: itemsChars (k :: items), ?_, hspace, hclose⟩
    rw [itemsChars, hc, List.cons_append]

theorem membersChars_eq_cons (m : String × Json) (members : List (String × Json)) :
    ∃ cs, membersChars (m :: members) = '"' :: cs := by
  cases members with
  | nil => exact ⟨_, rfl⟩
  | cons k members => exact ⟨_, rfl⟩

theorem skip_cons {c : Char} (h : isSpace c = false) (cs : List Char) :
    skip (c :: cs) = c :: cs := by
  rw [skip, List.dropWhile_cons_of_neg (by simp [h])]

/-- Behind a bracket that is not closed at once there are items. -/
theorem value?_bracket {c : Char} (hspace : isSpace c = false) (hclose : c ≠ ']') (steps : Nat)
    (cs : List Char) : value? (steps + 1) ('[' :: c :: cs) =
      (items? steps (c :: cs)).map fun (items, rest) => (.arr items, rest) := by
  have hbracket : isSpace '[' = false := by decide
  simp [value?, skip_cons hbracket, skip_cons hspace, hclose]

/-- Behind a brace and a quote there are members. -/
theorem value?_brace (steps : Nat) (cs : List Char) : value? (steps + 1) ('\x7b' :: '"' :: cs) =
    (members? steps ('"' :: cs)).map fun (members, rest) => (ofMembers members, rest) := by
  have hbrace : isSpace '\x7b' = false := by decide
  have hquote : isSpace '"' = false := by decide
  simp [value?, skip_cons hbrace, skip_cons hquote]

/-- What begins with a sign or a digit is a number. -/
theorem value?_number {c : Char} (h : c = '-' ∨ Text.isDigit c = true) (steps : Nat)
    (cs : List Char) : value? (steps + 1) (c :: cs) = number? (c :: cs) := by
  have hne : ∀ d, d ≠ '-' → Text.isDigit d = false → c ≠ d := by
    rintro d hminus hd rfl
    rcases h with rfl | h
    · exact hminus rfl
    · rw [h] at hd
      cases hd
  have hspace : isSpace c = false := by
    rcases h with rfl | h
    · decide
    · exact isSpace_of_isDigit h
  simp [value?, skip_cons hspace, hne 'n' (by decide) (by decide), hne 't' (by decide) (by decide),
    hne 'f' (by decide) (by decide), hne '"' (by decide) (by decide),
    hne '[' (by decide) (by decide), hne '\x7b' (by decide) (by decide)]

theorem ofMembers_map (members : List (String × Json)) :
    ofMembers (members.map fun m => (some m.1, m.2)) = .obj members := by
  have h : (members.mapM fun m => some (m.1, m.2)) = some members := by
    induction members with
    | nil => rfl
    | cons m members ih =>
      rw [List.mapM_cons, ih]
      rfl
  simp only [ofMembers, List.mapM_map, Function.comp_def, Option.map_some]
  rw [h]

mutual

/-- **A value is read as it was written**, with any text behind it that does not continue it. -/
theorem value?_chars : ∀ (j : Json) (steps : Nat) (rest : List Char), j.Plain → Ends rest →
    2 * (chars j).length < steps → value? steps (chars j ++ rest) = some (j, rest)
  | j, 0, _, _, _, h => absurd h (by omega)
  | .null, steps + 1, rest, _, _, _ => by simp [value?, chars, skip, isSpace]
  | .bool true, steps + 1, rest, _, _, _ => by simp [value?, chars, skip, isSpace]
  | .bool false, steps + 1, rest, _, _, _ => by simp [value?, chars, skip, isSpace]
  | .str s, steps + 1, rest, _, _, _ => by
    have hs := string?_stringChars s rest
    simp [value?, chars, stringChars, skip, isSpace, hs, ofString]
  | .arr [], steps + 1, rest, _, _, _ => by
    simp [value?, chars, itemsChars, skip, isSpace]
  | .arr (j :: items), steps + 1, rest, hp, _, h => by
    simp only [chars, List.length_cons, List.length_append, List.length_nil] at h
    have hitems := items?_itemsChars j items steps rest hp (by omega)
    obtain ⟨c, cs, hc, hspace, hclose⟩ := itemsChars_eq_cons hp
    rw [hc, List.cons_append] at hitems
    simp only [chars, hc, List.cons_append, List.append_assoc, List.nil_append]
    rw [value?_bracket hspace hclose, hitems]
    rfl
  | .obj [], steps + 1, rest, _, _, _ => by
    simp [value?, chars, membersChars, skip, isSpace]
  | .obj (m :: members), steps + 1, rest, hp, _, h => by
    simp only [chars, List.length_cons, List.length_append, List.length_nil] at h
    have hmembers := members?_membersChars m members steps rest hp (by omega)
    obtain ⟨cs, hc⟩ := membersChars_eq_cons m members
    rw [hc, List.cons_append] at hmembers
    simp only [chars, hc, List.cons_append, List.append_assoc, List.nil_append]
    rw [value?_brace, hmembers, Option.map_some]
    dsimp only
    rw [ofMembers_map]
  | .int n, steps + 1, rest, hp, hrest, _ => by
    obtain ⟨c, cs, hc, hstart⟩ := intChars_eq_cons n
    have hread := number?_intChars hp hrest
    rw [chars]
    rw [hc, List.cons_append] at hread ⊢
    rw [value?_number hstart, hread]
  | .real _, _ + 1, _, hp, _, _ => hp.elim
  | .garbled, _ + 1, _, hp, _, _ => hp.elim

theorem items?_itemsChars : ∀ (j : Json) (items : List Json) (steps : Nat) (rest : List Char),
    ItemsPlain (j :: items) → 2 * (itemsChars (j :: items)).length + 1 < steps →
    items? steps (itemsChars (j :: items) ++ ']' :: rest) = some (j :: items, rest)
  | _, _, 0, _, _, h => absurd h (by omega)
  | j, [], steps + 1, rest, hp, h => by
    have hj := value?_chars j steps (']' :: rest) hp.1 (.cons (by decide) _)
      (by simp [itemsChars] at h; omega)
    simp [items?, itemsChars, hj, skip, isSpace]
  | j, k :: items, steps + 1, rest, hp, h => by
    simp [itemsChars] at h
    have hj := value?_chars j steps (',' :: (itemsChars (k :: items) ++ ']' :: rest)) hp.1
      (.cons (by decide) _) (by omega)
    have hrest := items?_itemsChars k items steps rest hp.2 (by omega)
    simp [items?, itemsChars, hj, hrest, skip, isSpace]

theorem members?_membersChars : ∀ (m : String × Json) (members : List (String × Json))
    (steps : Nat) (rest : List Char), MembersPlain (m :: members) →
    2 * (membersChars (m :: members)).length + 1 < steps →
    members? steps (membersChars (m :: members) ++ '\x7d' :: rest) =
      some ((m :: members).map fun m => (some m.1, m.2), rest)
  | _, _, 0, _, _, h => absurd h (by omega)
  | (n, j), [], steps + 1, rest, hp, h => by
    simp [membersChars] at h
    have hj := value?_chars j steps ('\x7d' :: rest) hp.1 (.cons (by decide) _) (by omega)
    have hn := string?_stringChars n (':' :: (chars j ++ '\x7d' :: rest))
    simp [members?, membersChars, stringChars, hn, hj, skip, isSpace]
  | (n, j), k :: members, steps + 1, rest, hp, h => by
    simp [membersChars] at h
    have hrest := members?_membersChars k members steps rest hp.2 (by omega)
    have hj := value?_chars j steps (',' :: (membersChars (k :: members) ++ '\x7d' :: rest)) hp.1
      (.cons (by decide) _) (by omega)
    have hn := string?_stringChars n
      (':' :: (chars j ++ ',' :: (membersChars (k :: members) ++ '\x7d' :: rest)))
    simp [members?, membersChars, stringChars, hn, hj, hrest, skip, isSpace]

end

/-- **A whole text is read as the value that was written.** -/
theorem parse?_text {j : Json} (h : j.Plain) : parse? j.text = some j := by
  have hvalue := value?_chars j (2 * (chars j).length + 2) [] h .nil (by omega)
  rw [List.append_nil] at hvalue
  simp only [parse?, text, String.toList_ofList, hvalue, Option.bind_eq_bind, Option.bind_some]
  rfl

end NodeDeploy.Json
