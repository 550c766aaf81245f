import NodeDeploy.Text.Utf8

/-! # Texts as bytes and back

A text that is put into bytes is read back as it was, whatever characters it has: what the first
byte of a character leaves open is settled by those that follow it.

* `Text.continues` tells the bytes that follow others in a character. `Text.charBytes_eq_cons`: the
  first byte of a character is the only one that does not.
* `Text.readBytes_last` and `Text.readBytes_more`: a byte that is owed adds six bits to a character.
* `Text.readBytes_two`, `Text.readBytes_three` and `Text.readBytes_four`: characters of so many
  bytes.
* `Text.readBytes_charBytes`: the bytes of a character are read as the character.
* `Text.ofUtf8_utf8`: so is a whole text.
-/

namespace NodeDeploy.Text

/-- The number of a character is none of those that are set apart, and is not too high. -/
theorem toNat_bounds (c : Char) :
    c.toNat < 0xd800 ∨ 0xdfff < c.toNat ∧ c.toNat < 0x110000 := c.valid

theorem readBytes_first (b : Nat) (h : b < 256) (bs : List UInt8) :
    readBytes none (UInt8.ofNat b :: bs) = (readFirst b).1 ++ readBytes (readFirst b).2 bs := by
  have hb : (UInt8.ofNat b).toNat = b := by simpa using h
  rw [readBytes, readByte, hb]

/-! ## First and following bytes -/

theorem utf8_cons (c : Char) (cs : List Char) : utf8 (c :: cs) = charBytes c ++ utf8 cs := rfl

theorem utf8_append (cs ds : List Char) : utf8 (cs ++ ds) = utf8 cs ++ utf8 ds :=
  List.flatMap_append

/-- Whether a byte goes on with a character that bytes before it started. -/
def continues (b : UInt8) : Bool := 0x80 ≤ b.toNat && b.toNat < 0xc0

theorem continues_ofNat_iff {n : Nat} (h : n < 0x100) :
    continues (UInt8.ofNat n) = true ↔ 0x80 ≤ n ∧ n < 0xc0 := by
  have hn : (UInt8.ofNat n).toNat = n := by
    rw [UInt8.toNat_ofNat']
    omega
  simp [continues, hn]

/-- The first byte of a character does not go on with another one, and all others do. -/
theorem charBytes_eq_cons (c : Char) : ∃ first rest, charBytes c = first :: rest ∧
    continues first = false ∧ ∀ b ∈ rest, continues b = true := by
  have hc := toNat_bounds c
  have hfirst {n : Nat} (h : n < 0x100) (hn : n < 0x80 ∨ 0xc0 ≤ n) :
      continues (UInt8.ofNat n) = false :=
    Bool.eq_false_iff.2 (mt (continues_ofNat_iff h).1 (by omega))
  have hrest (n : Nat) : continues (UInt8.ofNat (0x80 + n % 64)) = true :=
    (continues_ofNat_iff (by omega)).2 (by omega)
  rw [charBytes]
  generalize c.toNat = n at hc
  dsimp only
  split
  · exact ⟨_, _, rfl, hfirst (by omega) (by omega), List.forall_mem_nil _⟩
  split
  · exact ⟨_, _, rfl, hfirst (by omega) (by omega), List.forall_mem_singleton.2 (hrest _)⟩
  split
  · exact ⟨_, _, rfl, hfirst (by omega) (by omega),
      List.forall_mem_cons.2 ⟨hrest _, List.forall_mem_singleton.2 (hrest _)⟩⟩
  · exact ⟨_, _, rfl, hfirst (by omega) (by omega), List.forall_mem_cons.2 ⟨hrest _,
      List.forall_mem_cons.2 ⟨hrest _, List.forall_mem_singleton.2 (hrest _)⟩⟩⟩

/-! ## Bytes that are owed -/

section Owed

variable {bits low high m : Nat} (hm : m < 64) (hlow : low ≤ 0x80 + m) (hhigh : 0x80 + m ≤ high)
  (bs : List UInt8)
include hm hlow hhigh

theorem readBytes_owed (owed : Nat) :
    readBytes (some ⟨bits, owed, low, high⟩) (UInt8.ofNat (0x80 + m) :: bs) =
      if owed ≤ 1 then Char.ofNat (bits * 64 + m) :: readBytes none bs
      else readBytes (some ⟨bits * 64 + m, owed - 1, 0x80, 0xbf⟩) bs := by
  have hb : (UInt8.ofNat (0x80 + m)).toNat = 0x80 + m := by
    simp only [UInt8.toNat_ofNat']
    omega
  have hbits : 0x80 + m - 0x80 = m := by omega
  simp only [readBytes, readByte, hb, hlow, hhigh, and_self, if_true, hbits]
  split <;> rfl

/-- The last byte that is owed completes a character. -/
theorem readBytes_last :
    readBytes (some ⟨bits, 1, low, high⟩) (UInt8.ofNat (0x80 + m) :: bs) =
      Char.ofNat (bits * 64 + m) :: readBytes none bs := by
  rw [readBytes_owed hm hlow hhigh, if_pos (Nat.le_refl 1)]

/-- Any other byte that is owed adds six bits to what is known of the character. -/
theorem readBytes_more (owed : Nat) :
    readBytes (some ⟨bits, owed + 2, low, high⟩) (UInt8.ofNat (0x80 + m) :: bs) =
      readBytes (some ⟨bits * 64 + m, owed + 1, 0x80, 0xbf⟩) bs := by
  rw [readBytes_owed hm hlow hhigh, if_neg (by omega)]
  rfl

end Owed

/-! ## First bytes -/

theorem readFirst_two : ∀ k < 32, 2 ≤ k → readFirst (0xc0 + k) = ([], some ⟨k, 1, 0x80, 0xbf⟩) := by
  decide

/-- The second of three bytes is bounded where the character could be too low, or one of those that
are set apart. -/
theorem readFirst_three : ∀ k < 16, readFirst (0xe0 + k) = ([], some ⟨k, 2,
    if k = 0 then 0xa0 else 0x80, if k = 0xd then 0x9f else 0xbf⟩) := by
  decide

/-- The second of four bytes is bounded where the character could be too low or too high. -/
theorem readFirst_four : ∀ k < 5, readFirst (0xf0 + k) = ([], some ⟨k, 3,
    if k = 0 then 0x90 else 0x80, if k = 4 then 0x8f else 0xbf⟩) := by
  decide

/-! ## Characters of several bytes -/

section Several

variable {k l m n : Nat} (hl : l < 64) (hm : m < 64) (hn : n < 64) (bs : List UInt8)

include hn in
theorem readBytes_two (hk : k < 32) (hlow : 2 ≤ k) :
    readBytes none (UInt8.ofNat (0xc0 + k) :: UInt8.ofNat (0x80 + n) :: bs) =
      Char.ofNat (k * 64 + n) :: readBytes none bs := by
  rw [readBytes_first _ (by omega), readFirst_two k hk hlow, List.nil_append,
    readBytes_last hn (by omega) (by omega)]

include hm hn in
theorem readBytes_three (hk : k < 16) (hlow : k = 0 → 0x20 ≤ m) (hapart : k = 0xd → m < 0x20) :
    readBytes none (UInt8.ofNat (0xe0 + k) :: UInt8.ofNat (0x80 + m) :: UInt8.ofNat (0x80 + n) ::
      bs) = Char.ofNat ((k * 64 + m) * 64 + n) :: readBytes none bs := by
  have hsecond : (if k = 0 then 0xa0 else 0x80) ≤ 0x80 + m ∧
      0x80 + m ≤ if k = 0xd then 0x9f else 0xbf := by
    split <;> split <;> omega
  rw [readBytes_first _ (by omega), readFirst_three k hk, List.nil_append,
    readBytes_more hm hsecond.1 hsecond.2, readBytes_last hn (by omega) (by omega)]

include hl hm hn in
theorem readBytes_four (hk : k < 5) (hlow : k = 0 → 0x10 ≤ l) (hhigh : k = 4 → l < 0x10) :
    readBytes none (UInt8.ofNat (0xf0 + k) :: UInt8.ofNat (0x80 + l) :: UInt8.ofNat (0x80 + m) ::
      UInt8.ofNat (0x80 + n) :: bs) =
      Char.ofNat (((k * 64 + l) * 64 + m) * 64 + n) :: readBytes none bs := by
  have hsecond : (if k = 0 then 0x90 else 0x80) ≤ 0x80 + l ∧
      0x80 + l ≤ if k = 4 then 0x8f else 0xbf := by
    split <;> split <;> omega
  rw [readBytes_first _ (by omega), readFirst_four k hk, List.nil_append,
    readBytes_more hl hsecond.1 hsecond.2, readBytes_more hm (by omega) (by omega),
    readBytes_last hn (by omega) (by omega)]

end Several

/-! ## Texts -/

/-- **The bytes of a character are read as the character.** -/
theorem readBytes_charBytes (c : Char) (bs : List UInt8) :
    readBytes none (charBytes c ++ bs) = c :: readBytes none bs := by
  have hc := toNat_bounds c
  have hchar : Char.ofNat c.toNat = c := Char.ofNat_toNat c
  rw [charBytes]
  generalize c.toNat = n at hc hchar
  simp only [Nat.shiftRight_eq_div_pow, Nat.reducePow, Nat.div_one]
  split
  · next h =>
    have hfirst : readFirst n = ([Char.ofNat n], none) := by rw [readFirst, if_pos h]
    rw [List.singleton_append, readBytes_first n (by omega), hfirst, hchar]
    rfl
  split
  · next h₀ h =>
    have hbits : n / 64 * 64 + n % 64 = n := by omega
    have hread := readBytes_two (k := n / 64) (n := n % 64) (by omega) bs (by omega) (by omega)
    rwa [hbits, hchar] at hread
  split
  · next h₀ h₁ h =>
    have hbits : (n / 4096 * 64 + n / 64 % 64) * 64 + n % 64 = n := by omega
    have hread := readBytes_three (k := n / 4096) (m := n / 64 % 64) (n := n % 64) (by omega)
      (by omega) bs (by omega) (by omega) (by omega)
    rwa [hbits, hchar] at hread
  · next h₀ h₁ h₂ =>
    have hbits : ((n / 262144 * 64 + n / 4096 % 64) * 64 + n / 64 % 64) * 64 + n % 64 = n := by
      omega
    have hread := readBytes_four (k := n / 262144) (l := n / 4096 % 64) (m := n / 64 % 64)
      (n := n % 64) (by omega) (by omega) (by omega) bs (by omega) (by omega) (by omega)
    rwa [hbits, hchar] at hread

/-- **A text is read back from its bytes.** -/
theorem ofUtf8_utf8 (cs : List Char) : ofUtf8 (utf8 cs) = cs := by
  induction cs with
  | nil => rfl
  | cons c cs ih =>
    rw [ofUtf8] at ih ⊢
    rw [utf8_cons, readBytes_charBytes]
    exact congrArg (c :: ·) ih

end NodeDeploy.Text
