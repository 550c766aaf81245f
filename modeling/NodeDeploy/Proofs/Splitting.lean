import Mathlib.Data.List.Infix
import NodeDeploy.Device.Shell
import NodeDeploy.Proofs.Decoding
import NodeDeploy.Proofs.Scanning

/-! # Messages that cut characters

The output of a device arrives in messages, and each is decoded by itself. What a wait reads is then
the output of the device exactly if no message ends within a character: a character that is cut is
read as two or more replacement characters. The ASCII part of the output is not affected, since
ASCII characters are single bytes.

* `Text.countP_le_length`: decoding gives at least one character for each byte that does not follow
  others in one, and one more at a cut.
* `Text.whole_of_starts`: where each piece of a text starts with a character, each is a text.
* `Text.filter_ofUtf8`: the ASCII characters of any bytes are the ASCII bytes.
* `Shell.textOf` is the text of messages, and `readUntil_eq_ok_iff` says that this is what a wait
  reads.
* `decoded_by_message`: when the text is that of the output, and for which commands the echo does
  not depend on how the output is cut into messages.
-/

namespace NodeDeploy

namespace Text

/-! ## Pieces that start with characters -/

/-- The bytes are those of a text, so that no character is cut. -/
def Whole (bs : List UInt8) : Prop := ∃ cs, bs = utf8 cs

theorem countP_utf8 (cs : List Char) : (utf8 cs).countP (!continues ·) = cs.length := by
  induction cs with
  | nil => rfl
  | cons c cs ih =>
    obtain ⟨b, bs, hc, hb, hbs⟩ := charBytes_eq_cons c
    have hnone : bs.countP (!continues ·) = 0 := by
      rw [List.countP_eq_zero]
      intro x hx
      simp [hbs x hx]
    rw [utf8_cons, List.countP_append, hc, List.countP_cons_of_pos (by simp [hb]), hnone,
      List.length_cons, ih]
    omega

/-- **Where each piece starts with a character, each is a text.** -/
theorem whole_append {bs rest : List UInt8} {cs : List Char} (h : bs ++ rest = utf8 cs)
    (hrest : ∀ b ∈ rest.head?, continues b = false) :
    ∃ ds es, bs = utf8 ds ∧ rest = utf8 es := by
  induction cs generalizing bs with
  | nil =>
    obtain ⟨rfl, rfl⟩ := List.append_eq_nil_iff.1 h
    exact ⟨[], [], rfl, rfl⟩
  | cons c cs ih =>
    rcases bs with _ | ⟨b, bs⟩
    · exact ⟨[], c :: cs, rfl, h⟩
    rw [utf8_cons] at h
    obtain ⟨first, more, hc, hfirst, hmore⟩ := charBytes_eq_cons c
    rcases List.append_eq_append_iff.1 h with ⟨cut, hcut, htail⟩ | ⟨bs', hbs, hrest'⟩
    · -- The first piece ends within the character or with it.
      rcases cut with _ | ⟨x, cut⟩
      · exact ⟨[c], cs, by simpa [utf8] using hcut.symm, htail⟩
      · have hx : x ∈ more := by
          rw [hc, List.cons_append, List.cons.injEq] at hcut
          rw [hcut.2]
          simp
        have hhead := hrest x (by rw [htail]; rfl)
        rw [hmore x hx] at hhead
        cases hhead
    · obtain ⟨ds, es, rfl, hes⟩ := ih hrest'.symm
      exact ⟨c :: ds, es, by rw [hbs, utf8_cons], hes⟩

theorem whole_of_starts {chunks : List (List UInt8)} {cs : List Char}
    (h : chunks.flatten = utf8 cs)
    (hstarts : ∀ chunk ∈ chunks, ∀ b ∈ chunk.head?, continues b = false) :
    ∀ chunk ∈ chunks, Whole chunk := by
  induction chunks generalizing cs with
  | nil => exact fun _ hmem => nomatch hmem
  | cons chunk chunks ih =>
    obtain ⟨hfirst, hothers⟩ := List.forall_mem_cons.1 hstarts
    have hrest : ∀ b ∈ chunks.flatten.head?, continues b = false := by
      intro b hb
      rw [List.head?_flatten] at hb
      obtain ⟨other, hmem, hhead⟩ := List.exists_of_findSome?_eq_some hb
      exact hothers other hmem b hhead
    obtain ⟨ds, es, hds, hes⟩ := whole_append h hrest
    exact List.forall_mem_cons.2 ⟨⟨ds, hds⟩, ih hes hothers⟩

/-! ## What is read of any bytes -/

/-- The characters that a partial one may become, by their numbers. -/
def Partial.Within (lo hi : Nat) (p : Partial) : Prop :=
  (p.owed = 1 ∧ lo ≤ p.bits * 64 + (p.low - 0x80) ∧ p.bits * 64 + (p.high - 0x80) ≤ hi) ∨
  (p.owed = 2 ∧ lo ≤ (p.bits * 64 + (p.low - 0x80)) * 64 ∧
    (p.bits * 64 + (p.high - 0x80)) * 64 + 63 ≤ hi) ∨
  (p.owed = 3 ∧ lo ≤ (p.bits * 64 + (p.low - 0x80)) * 4096 ∧
    (p.bits * 64 + (p.high - 0x80)) * 4096 + 4095 ≤ hi)

/-- A partial character takes following bytes only, and becomes one beyond ASCII. -/
structure Partial.Sound (p : Partial) : Prop where
  low : 0x80 ≤ p.low
  high : p.high ≤ 0xbf
  within : p.Within 0x80 0xd7ff ∨ p.Within 0xe000 0x10ffff

instance (lo hi : Nat) (p : Partial) : Decidable (p.Within lo hi) :=
  inferInstanceAs (Decidable (_ ∨ _ ∨ _))

instance (p : Partial) : Decidable p.Sound :=
  decidable_of_iff (0x80 ≤ p.low ∧ p.high ≤ 0xbf ∧ (p.Within 0x80 0xd7ff ∨
    p.Within 0xe000 0x10ffff)) ⟨fun h => ⟨h.1, h.2.1, h.2.2⟩, fun h => ⟨h.1, h.2, h.3⟩⟩

def isAscii (c : Char) : Bool := c.toNat < 0x80

def asciiOf (bs : List UInt8) : List Char :=
  (bs.filter (·.toNat < 0x80)).map fun b => Char.ofNat b.toNat

/-- How many characters a partial one will give, at least. -/
def owing (pending : Option Partial) : Nat := if pending.isSome then 1 else 0

@[simp] theorem owing_none : owing none = 0 := rfl

@[simp] theorem owing_some (p : Partial) : owing (some p) = 1 := rfl

theorem readFirst_spec : ∀ n < 256, (readFirst n).1.length + owing (readFirst n).2 = 1 ∧
    (∀ p ∈ (readFirst n).2, p.Sound) ∧
    (readFirst n).1.filter isAscii = if n < 0x80 then [Char.ofNat n] else [] := by
  decide +kernel

theorem toNat_ofNat {n : Nat} (h : n ≤ 0xd7ff ∨ 0xe000 ≤ n ∧ n ≤ 0x10ffff) :
    (Char.ofNat n).toNat = n := by
  have hvalid : n.isValidChar := by
    unfold Nat.isValidChar
    omega
  rw [Char.ofNat, dif_pos hvalid]
  rfl

theorem isAscii_ofNat {n : Nat} (hlow : 0x80 ≤ n) (h : n ≤ 0xd7ff ∨ 0xe000 ≤ n ∧ n ≤ 0x10ffff) :
    isAscii (Char.ofNat n) = false := by
  simp [isAscii, toNat_ofNat h, hlow]

/-- A byte that does not continue a character gives an ASCII character or none. -/
theorem mem_readFirst {n : Nat} {c : Char} (h : c ∈ (readFirst n).1) :
    isAscii c = true ∨ c = replacement := by
  rw [readFirst] at h
  split_ifs at h with hascii
  · left
    obtain rfl := List.mem_singleton.1 h
    simpa [isAscii, toNat_ofNat (n := n) (by omega)] using hascii
  all_goals first
    | exact absurd h List.not_mem_nil
    | exact .inr (List.mem_singleton.1 h)

/-- A byte alone gives an ASCII character or none. -/
theorem mem_ofUtf8_singleton {b : UInt8} {c : Char} (h : c ∈ ofUtf8 [b]) :
    isAscii c = true ∨ c = replacement := by
  have hread : ofUtf8 [b] = (readFirst b.toNat).1 ++
      if (readFirst b.toNat).2.isSome then [replacement] else [] := rfl
  rw [hread] at h
  rcases List.mem_append.1 h with h | h
  · exact mem_readFirst h
  · -- A character that the byte leaves open is given up.
    by_cases hopen : (readFirst b.toNat).2.isSome = true
    · rw [if_pos hopen] at h
      exact .inr (List.mem_singleton.1 h)
    · rw [if_neg hopen] at h
      cases h

/-- A byte that a partial character takes leaves the characters that it may become among those
before. -/
theorem Partial.Within.take {lo hi : Nat} {p : Partial} (h : p.Within lo hi) (hl : 0x80 ≤ p.low)
    {m : Nat} (hlow : p.low ≤ 0x80 + m) (hhigh : 0x80 + m ≤ p.high) (ho : ¬p.owed ≤ 1) :
    Within lo hi ⟨p.bits * 64 + m, p.owed - 1, 0x80, 0xbf⟩ := by
  obtain ⟨bits, owed, low, high⟩ := p
  simp only [Within] at h hl hlow hhigh ho ⊢
  rcases h with ⟨rfl, -⟩ | ⟨rfl, hlo, hhi⟩ | ⟨rfl, hlo, hhi⟩
  · exact absurd (Nat.le_refl 1) ho
  · refine .inl ⟨rfl, ?_, ?_⟩ <;> omega
  · refine .inr (.inl ⟨rfl, ?_, ?_⟩) <;> omega

/-- A byte that a partial character takes completes it, beyond ASCII, or leaves it partial. -/
theorem Partial.Sound.take {p : Partial} (h : p.Sound) {m : Nat} (hlow : p.low ≤ 0x80 + m)
    (hhigh : 0x80 + m ≤ p.high) :
    (p.owed ≤ 1 → isAscii (Char.ofNat (p.bits * 64 + m)) = false) ∧
    (¬p.owed ≤ 1 → Sound ⟨p.bits * 64 + m, p.owed - 1, 0x80, 0xbf⟩) := by
  obtain ⟨hl, -, hwithin⟩ := h
  constructor
  · intro ho
    simp only [Within] at hwithin
    refine isAscii_ofNat ?_ ?_ <;> omega
  · intro ho
    refine ⟨Nat.le_refl _, Nat.le_refl _, ?_⟩
    exact hwithin.imp (·.take hl hlow hhigh ho) (·.take hl hlow hhigh ho)

theorem isAscii_replacement : isAscii replacement = false := by decide

/-- **What one byte adds**: at least one character if it does not follow another, and no ASCII
character but itself. -/
theorem readByte_spec {pending : Option Partial} (hp : ∀ p ∈ pending, p.Sound) (b : UInt8) :
    owing pending + (if continues b then 0 else 1) ≤
      (readByte pending b).1.length + owing (readByte pending b).2 ∧
    (∀ p ∈ (readByte pending b).2, p.Sound) ∧
    (readByte pending b).1.filter isAscii =
      if b.toNat < 0x80 then [Char.ofNat b.toNat] else [] := by
  obtain ⟨hcount, hsound, hascii⟩ := readFirst_spec b.toNat b.toNat_lt
  rcases pending with _ | p
  · refine ⟨?_, hsound, hascii⟩
    simp only [readByte, hcount, owing_none]
    split <;> omega
  obtain ⟨hlow, hhigh, -⟩ := hp p rfl
  simp only [readByte]
  by_cases htakes : p.low ≤ b.toNat ∧ b.toNat ≤ p.high
  · have hcontinues : continues b = true := by
      simp only [continues, Bool.and_eq_true, decide_eq_true_eq]
      omega
    have hascii : ¬b.toNat < 0x80 := by omega
    have htake := (hp p rfl).take (m := b.toNat - 0x80) (by omega) (by omega)
    rw [if_pos htakes, hcontinues, if_neg hascii]
    by_cases ho : p.owed ≤ 1
    · rw [if_pos ho]
      exact ⟨by simp, by simp, by simp [htake.1 ho]⟩
    · rw [if_neg ho]
      refine ⟨by simp, fun q hq => ?_, rfl⟩
      obtain rfl := Option.some.inj hq
      exact htake.2 ho
  · -- The partial character is given up, and the byte is read as a first one.
    rw [if_neg htakes]
    refine ⟨?_, hsound, ?_⟩
    · simp only [List.length_cons, owing_some]
      split <;> omega
    · simpa [isAscii_replacement] using hascii

/-- **Decoding gives a character for each byte that does not follow another**, and one for what is
left partial before. -/
theorem countP_le_length {pending : Option Partial} (hp : ∀ p ∈ pending, p.Sound)
    (bs : List UInt8) :
    owing pending + bs.countP (!continues ·) ≤ (readBytes pending bs).length := by
  induction bs generalizing pending with
  | nil => rcases pending with _ | p <;> simp [readBytes]
  | cons b bs ih =>
    obtain ⟨hcount, hsound, -⟩ := readByte_spec hp b
    have hrest := ih hsound
    have hone : (if (!continues b) = true then 1 else 0) = if continues b then 0 else 1 := by
      cases continues b <;> rfl
    rw [readBytes, List.countP_cons, hone]
    simp only [List.length_append]
    omega

/-- So there is one for each byte that does not follow another. -/
theorem countP_le_length_ofUtf8 (bs : List UInt8) :
    bs.countP (!continues ·) ≤ (ofUtf8 bs).length := by
  have h : owing none + bs.countP (!continues ·) ≤ (readBytes none bs).length :=
    countP_le_length (by simp) bs
  rwa [owing_none, Nat.zero_add] at h

/-- There is one more if they begin within a character. -/
theorem countP_lt_length {b : UInt8} (hb : continues b = true) (bs : List UInt8) :
    (b :: bs).countP (!continues ·) < (ofUtf8 (b :: bs)).length := by
  obtain ⟨hcount, hsound, -⟩ := readFirst_spec b.toNat b.toNat_lt
  have hrest := countP_le_length hsound bs
  rw [ofUtf8, readBytes, List.countP_cons_of_neg (by simp [hb])]
  simp only [readByte, List.length_append]
  omega

/-- **The ASCII characters of any bytes are the ASCII bytes.** -/
theorem filter_readBytes {pending : Option Partial} (hp : ∀ p ∈ pending, p.Sound)
    (bs : List UInt8) : (readBytes pending bs).filter isAscii = asciiOf bs := by
  induction bs generalizing pending with
  | nil => rcases pending with _ | p <;> simp [readBytes, asciiOf, isAscii_replacement]
  | cons b bs ih =>
    obtain ⟨-, hsound, hascii⟩ := readByte_spec hp b
    rw [readBytes]
    simp only [List.filter_append, ih hsound, hascii, asciiOf, List.filter_cons,
      decide_eq_true_eq]
    split <;> rfl

theorem filter_ofUtf8 (bs : List UInt8) : (ofUtf8 bs).filter isAscii = asciiOf bs :=
  filter_readBytes (by simp) bs

/-! ## Texts in pieces -/

section Pieces

variable {chunks : List (List UInt8)} {cs : List Char}

/-- Pieces that are texts are decoded to their text. -/
theorem utf8_flatMap_ofUtf8 (h : ∀ chunk ∈ chunks, Whole chunk) :
    utf8 (chunks.flatMap ofUtf8) = chunks.flatten := by
  induction chunks with
  | nil => rfl
  | cons chunk chunks ih =>
    obtain ⟨⟨ds, rfl⟩, hothers⟩ := List.forall_mem_cons.1 h
    rw [List.flatMap_cons, ofUtf8_utf8, List.flatten_cons, ← ih hothers]
    exact utf8_append _ _

/-- Pieces that are decoded to no more characters than bytes begin them start with characters. -/
theorem starts_of_length
    (h : (chunks.flatMap ofUtf8).length ≤ chunks.flatten.countP (!continues ·)) :
    ∀ chunk ∈ chunks, ∀ b ∈ chunk.head?, continues b = false := by
  have hle (l : List (List UInt8)) :
      l.flatten.countP (!continues ·) ≤ (l.flatMap ofUtf8).length := by
    induction l with
    | nil => simp
    | cons chunk l ih =>
      have hchunk := countP_le_length_ofUtf8 chunk
      simp only [List.flatten_cons, List.countP_append, List.flatMap_cons, List.length_append]
      omega
  induction chunks with
  | nil => exact fun _ hmem => nomatch hmem
  | cons chunk chunks ih =>
    have hothers := hle chunks
    simp only [List.flatten_cons, List.countP_append, List.flatMap_cons, List.length_append] at h
    refine List.forall_mem_cons.2 ⟨fun b hb => ?_, ih ?_⟩
    · rcases chunk with _ | ⟨first, bs⟩
      · cases hb
      obtain rfl : first = b := Option.some.inj hb
      refine Bool.eq_false_iff.2 fun hcontinues => ?_
      have hlt := countP_lt_length hcontinues bs
      omega
    · have hchunk := countP_le_length_ofUtf8 chunk
      omega

/-- **Pieces of a text are decoded to it exactly if no character is cut.** -/
theorem flatMap_ofUtf8_eq_iff (h : chunks.flatten = utf8 cs) :
    chunks.flatMap ofUtf8 = cs ↔ ∀ chunk ∈ chunks, Whole chunk := by
  constructor
  · intro heq
    refine whole_of_starts h (starts_of_length ?_)
    rw [heq, h, countP_utf8]
  · intro hwhole
    rw [← ofUtf8_utf8 (chunks.flatMap ofUtf8), utf8_flatMap_ofUtf8 hwhole, h, ofUtf8_utf8]

/-- **However a text is cut, its ASCII characters are found.** -/
theorem filter_flatMap_ofUtf8 (h : chunks.flatten = utf8 cs) :
    (chunks.flatMap ofUtf8).filter isAscii = cs.filter isAscii := by
  have hascii (l : List (List UInt8)) :
      (l.flatMap ofUtf8).filter isAscii = asciiOf l.flatten := by
    induction l with
    | nil => rfl
    | cons chunk l ih =>
      rw [List.flatMap_cons, List.filter_append, filter_ofUtf8, ih]
      simp [asciiOf]
  rw [hascii, h, ← filter_ofUtf8, ofUtf8_utf8]

end Pieces

end Text

/-! ## Waits -/

namespace Shell

def data (chunks : List (List UInt8)) : List ChannelMessage := chunks.map .data

/-- The text that a wait makes of messages, each of which is decoded by itself. -/
def textOf (chunks : List (List UInt8)) : List Char := chunks.flatMap Text.ofUtf8

/-- These messages have arrived, and no wait has read them. -/
def Arrived (chunks : List (List UInt8)) (s : Shell) : Prop :=
  s.ended = false ∧ s.inbox = data chunks

/-- The first messages with whose text a wait is done. -/
structure FirstDone (done : List Char → Bool) (chunks l : List (List UInt8)) : Prop where
  isPrefix : l <+: chunks
  nonempty : l ≠ []
  isDone : done (textOf l) = true
  before : ∀ m, m <+: l → m ≠ [] → m ≠ l → done (textOf m) = false

section Waits

variable {operation address : String} {limit : Duration} {done : List Char → Bool}
  {buffer t : List Char} {chunks : List (List UInt8)}

/-- The first messages are the first one alone, or it and the first of the others. -/
theorem firstDone_cons_iff {chunk : List UInt8} {l : List (List UInt8)} :
    FirstDone done (chunk :: chunks) l ↔
      if done (Text.ofUtf8 chunk) then l = [chunk]
      else ∃ l', l = chunk :: l' ∧
        FirstDone (fun cs => done (Text.ofUtf8 chunk ++ cs)) chunks l' := by
  have hone : textOf [chunk] = Text.ofUtf8 chunk := List.flatMap_singleton ..
  have hmore (l : List (List UInt8)) : textOf (chunk :: l) = Text.ofUtf8 chunk ++ textOf l :=
    List.flatMap_cons
  constructor
  · intro hl
    rcases List.prefix_cons_iff.1 hl.isPrefix with rfl | ⟨l', rfl, hl'⟩
    · exact absurd rfl hl.nonempty
    by_cases hnil : l' = []
    · have hdone := hl.isDone
      rw [hnil, hone] at hdone
      rw [if_pos hdone, hnil]
    · have hbefore := hl.before [chunk] ⟨l', rfl⟩ (List.cons_ne_nil _ _)
        (by simpa using Ne.symm hnil)
      rw [hone] at hbefore
      rw [hbefore]
      refine ⟨l', rfl, hl', hnil, by rw [← hmore]; exact hl.isDone, fun m hm hm₀ hproper => ?_⟩
      rw [← hmore]
      exact hl.before (chunk :: m) (List.prefix_cons_inj chunk |>.2 hm) (List.cons_ne_nil _ _)
        fun heq => hproper (List.cons.inj heq).2
  · split
    · rintro rfl
      next hdone =>
      refine ⟨⟨chunks, rfl⟩, List.cons_ne_nil _ _, by rwa [hone], fun m hm hne hproper => ?_⟩
      rcases List.prefix_cons_iff.1 hm with rfl | ⟨m', rfl, hm'⟩
      · exact absurd rfl hne
      · exact absurd (by rw [List.prefix_nil.1 hm']) hproper
    · rintro ⟨l, rfl, hl⟩
      next hdone =>
      refine ⟨List.prefix_cons_inj chunk |>.2 hl.isPrefix, List.cons_ne_nil _ _,
        by rw [hmore]; exact hl.isDone, fun m hm hne hproper => ?_⟩
      rcases List.prefix_cons_iff.1 hm with rfl | ⟨m', rfl, hm'⟩
      · exact absurd rfl hne
      rw [hmore]
      by_cases hm₀ : m' = []
      · rw [hm₀]
        simpa [textOf] using hdone
      · exact hl.before m' hm' hm₀ fun heq => hproper (by rw [heq])

theorem collect_eq_ok_iff :
    (collect done operation address limit buffer (data chunks)).1 = .ok t ↔
      ∃ l, FirstDone (fun cs => done (buffer ++ cs)) chunks l ∧ t = buffer ++ textOf l := by
  induction chunks generalizing buffer with
  | nil =>
    constructor
    · intro h
      cases h
    · rintro ⟨l, hl, -⟩
      exact absurd (List.prefix_nil.1 hl.isPrefix) hl.nonempty
  | cons chunk chunks ih =>
    have hcollect : collect done operation address limit buffer (data (chunk :: chunks)) =
        if done (buffer ++ Text.ofUtf8 chunk) then
          (.ok (buffer ++ Text.ofUtf8 chunk), data chunks, false)
        else collect done operation address limit (buffer ++ Text.ofUtf8 chunk) (data chunks) := rfl
    rw [hcollect]
    simp only [firstDone_cons_iff]
    split
    · simp [textOf, eq_comm]
    · simp [ih, textOf]

/-- **What a wait reads** is the text of the first messages with which it is done. -/
theorem readUntil_eq_ok_iff {s : Shell} (h : s.Arrived chunks) :
    (readUntil operation address done s).1 = .ok t ↔
      ∃ l, FirstDone done chunks l ∧ t = textOf l := by
  have hread : (readUntil operation address done s).1 =
      (collect done operation address s.limit [] (data chunks)).1 := by
    rw [readUntil, h.1, h.2]
    rfl
  rw [hread, collect_eq_ok_iff]
  rfl

/-- There are first messages with which a wait is done if there are any. -/
theorem exists_firstDone {l : List (List UInt8)} (hl : l <+: chunks) (hne : l ≠ [])
    (hdone : done (textOf l) = true) : ∃ first, FirstDone done chunks first := by
  induction hn : l.length using Nat.strong_induction_on generalizing l with
  | _ n ih =>
    by_cases hbefore : ∃ m, m <+: l ∧ m ≠ [] ∧ m ≠ l ∧ done (textOf m) = true
    · obtain ⟨m, hm, hm₀, hproper, hdone'⟩ := hbefore
      have hlt : m.length < l.length :=
        Nat.lt_of_le_of_ne hm.length_le fun heq => hproper (hm.eq_of_length heq)
      exact ih m.length (hn ▸ hlt) (hm.trans hl) hm₀ hdone' rfl
    · refine ⟨l, hl, hne, hdone, fun m hm hm₀ hproper => ?_⟩
      exact Bool.eq_false_iff.2 fun hdone' => hbefore ⟨m, hm, hm₀, hproper, hdone'⟩

end Waits

/-- The wait for the echo of a command succeeds. -/
def Echoed (address command : String) (s : Shell) : Prop :=
  ∃ t, (readUntil "command echo" address
    (fun cs => Prompt.echoes cs command.toList) s).1 = .ok t

/-- **The echo has shown once it is in the text of all messages**, of which there must be one. -/
theorem echoed_iff {address command : String} {chunks : List (List UInt8)} {s : Shell}
    (h : s.Arrived chunks) : s.Echoed address command ↔
      chunks ≠ [] ∧ Prompt.echoes (textOf chunks) command.toList = true := by
  simp only [Echoed, readUntil_eq_ok_iff h]
  constructor
  · rintro ⟨t, l, hl, -⟩
    obtain ⟨rest, rfl⟩ := hl.isPrefix
    refine ⟨fun hnil => hl.nonempty (List.append_eq_nil_iff.1 hnil).1, ?_⟩
    refine Prompt.echoes_mono hl.isDone ?_
    rw [textOf, textOf, List.flatMap_append]
    exact List.sublist_append_left _ _
  · rintro ⟨hne, hdone⟩
    obtain ⟨first, hfirst⟩ := exists_firstDone List.prefix_rfl hne hdone
    exact ⟨_, first, hfirst, rfl⟩

/-! ## Messages of one byte -/

/-- The bytes of a text, each in a message of its own. -/
def bytewise (cs : List Char) : List (List UInt8) := (Text.utf8 cs).map fun b => [b]

theorem flatten_bytewise (cs : List Char) : (bytewise cs).flatten = Text.utf8 cs := by
  rw [bytewise, ← List.flatMap_def, List.flatMap_singleton']

theorem bytewise_ne_nil {cs : List Char} (h : cs ≠ []) : bytewise cs ≠ [] := by
  obtain ⟨c, cs, rfl⟩ := List.exists_cons_of_ne_nil h
  obtain ⟨b, bs, hc, -, -⟩ := Text.charBytes_eq_cons c
  simp [bytewise, Text.utf8, hc]

theorem textOf_bytewise_cons (c : Char) (cs : List Char) :
    textOf (bytewise (c :: cs)) = textOf (bytewise [c]) ++ textOf (bytewise cs) := by
  simp [textOf, bytewise, Text.utf8]

theorem textOf_bytewise_ascii {c : Char} (h : Text.isAscii c = true) :
    textOf (bytewise [c]) = [c] := by
  have hbyte : Text.charBytes c = [UInt8.ofNat c.toNat] := by
    rw [Text.charBytes]
    exact if_pos (by simpa [Text.isAscii] using h)
  have hread := Text.ofUtf8_utf8 [c]
  simpa [textOf, bytewise, Text.utf8, hbyte] using hread

theorem mem_textOf_bytewise {c : Char} {cs : List Char} (h : c ∈ textOf (bytewise cs)) :
    Text.isAscii c = true ∨ c = Text.replacement := by
  obtain ⟨chunk, hchunk, hc⟩ := List.mem_flatMap.1 h
  obtain ⟨b, -, rfl⟩ := List.mem_map.1 hchunk
  exact Text.mem_ofUtf8_singleton hc

/-- The text with a letter of two bytes for each character beyond ASCII. -/
def disguised (cs : List Char) : List Char := cs.map fun c => if Text.isAscii c then c else 'é'

/-- Byte by byte, the letters give replacement characters. -/
theorem sublist_disguised {cs : List Char}
    (h : ∀ c ∈ cs, Text.isAscii c = true ∨ c = Text.replacement) :
    cs.Sublist (textOf (bytewise (disguised cs))) := by
  induction cs with
  | nil => exact List.nil_sublist _
  | cons c cs ih =>
    obtain ⟨hc, hothers⟩ := List.forall_mem_cons.1 h
    rw [disguised, List.map_cons, textOf_bytewise_cons, ← disguised]
    have hfirst : [c].Sublist (textOf (bytewise [if Text.isAscii c then c else 'é'])) := by
      rcases hc with hc | rfl
      · rw [if_pos hc, textOf_bytewise_ascii hc]
      · decide
    exact hfirst.append (ih hothers)

theorem replacement_notMem_disguised (cs : List Char) : Text.replacement ∉ disguised cs := by
  intro h
  obtain ⟨c, -, hc⟩ := List.mem_map.1 h
  split at hc
  · next hascii =>
    rw [hc] at hascii
    cases hascii
  · exact absurd hc (by decide)

/-! ## The result -/

/-- Whatever is cut, the wait for the echo of a command ends as if nothing were. -/
def CutSafe (command : String) : Prop :=
  ∀ cs chunks, chunks.flatten = Text.utf8 cs → chunks ≠ [] → ∀ address (s : Shell),
    s.Arrived chunks → (s.Echoed address command ↔ Prompt.echoes cs command.toList = true)

def holding (chunks : List (List UInt8)) : Shell where
  login := ⟨true, none, none⟩
  greeting := []
  replies := []
  inbox := data chunks
  limit := .ofSeconds 5

theorem arrived_holding (chunks : List (List UInt8)) : (holding chunks).Arrived chunks :=
  ⟨rfl, rfl⟩

theorem cutSafe_of_ascii {command : String}
    (h : ∀ c ∈ Prompt.inked command.toList, Text.isAscii c = true) : CutSafe command := by
  intro cs chunks hcs hne address s hs
  have hfilter : Prompt.echoes (textOf chunks) command.toList =
      Prompt.echoes cs command.toList := by
    rw [← Prompt.echoes_filter h, textOf, Text.filter_flatMap_ofUtf8 hcs, Prompt.echoes_filter h]
  rw [echoed_iff hs, hfilter]
  exact and_iff_right hne

/-- **Only a command in ASCII is safe from cuts.** -/
theorem cutSafe_iff (command : String) :
    CutSafe command ↔ ∀ c ∈ Prompt.inked command.toList, Text.isAscii c = true := by
  refine ⟨fun h => ?_, cutSafe_of_ascii⟩
  by_contra hnot
  simp only [not_forall] at hnot
  obtain ⟨c, hc, hbeyond⟩ := hnot
  have hne : Prompt.inked command.toList ≠ [] := List.ne_nil_of_mem hc
  -- Byte by byte, a character beyond ASCII shows only if it is the replacement character, and that
  -- one shows where it is not.
  by_cases hall : ∀ d ∈ Prompt.inked command.toList,
      Text.isAscii d = true ∨ d = Text.replacement
  · have hd : disguised (Prompt.inked command.toList) ≠ [] := by simpa [disguised] using hne
    have hsafe := h _ _ (flatten_bytewise _) (bytewise_ne_nil hd) "" _ (arrived_holding _)
    rw [echoed_iff (arrived_holding _), Prompt.echoes_iff, Prompt.echoes_iff] at hsafe
    have hsub := hsafe.1 ⟨bytewise_ne_nil hd, sublist_disguised hall⟩
    obtain rfl := (hall c hc).resolve_left hbeyond
    exact replacement_notMem_disguised _ (hsub.subset hc)
  · have hsafe := h _ _ (flatten_bytewise _) (bytewise_ne_nil hne) "" _ (arrived_holding _)
    rw [echoed_iff (arrived_holding _), Prompt.echoes_iff, Prompt.echoes_iff] at hsafe
    have hsub := (hsafe.2 (List.Sublist.refl _)).2
    exact hall fun d hd => mem_textOf_bytewise (hsub.subset hd)

/-- **Output is decoded message by message.** If the output is a text, the text of all of its
messages is that text exactly if no message cuts a character, and a wait reads the text of the first
messages with which it is done. Whether the wait for the echo of a command has succeeded once all
messages have arrived depends on the output alone exactly if the command, white space left aside, is
in ASCII. -/
theorem decoded_by_message (cs : List Char) (chunks : List (List UInt8))
    (h : chunks.flatten = Text.utf8 cs) (command : String) :
    (textOf chunks = cs ↔ ∀ chunk ∈ chunks, Text.Whole chunk) ∧
    (∀ operation address done (s : Shell) t, s.Arrived chunks →
      ((readUntil operation address done s).1 = .ok t ↔
        ∃ l, FirstDone done chunks l ∧ t = textOf l)) ∧
    (CutSafe command ↔ ∀ c ∈ Prompt.inked command.toList, Text.isAscii c = true) :=
  ⟨Text.flatMap_ofUtf8_eq_iff h, fun _ _ _ _ _ harrived => readUntil_eq_ok_iff harrived,
    cutSafe_iff command⟩

/-- A letter of two bytes that arrives in one message is read, and echoed. -/
theorem decoded_by_message_sample : [[0xc3, 0xa9]].flatten = Text.utf8 ['é'] ∧
    textOf [[0xc3, 0xa9]] = ['é'] ∧ (holding [[0xc3, 0xa9]]).Arrived [[0xc3, 0xa9]] ∧
    ∃ l, FirstDone (fun cs => Prompt.echoes cs "é".toList) [[0xc3, 0xa9]] l ∧
      ['é'] = textOf l := by
  have houtput : [[0xc3, 0xa9]].flatten = Text.utf8 ['é'] := by decide
  have harrived := arrived_holding [[0xc3, 0xa9]]
  obtain ⟨hwhole, hread, -⟩ := decoded_by_message ['é'] [[0xc3, 0xa9]] houtput "é"
  refine ⟨houtput, hwhole.2 ?_, harrived, ?_⟩
  · intro chunk hchunk
    obtain rfl := List.mem_singleton.1 hchunk
    exact ⟨['é'], by decide⟩
  · exact (hread "command echo" "127.0.0.1" _ _ _ harrived).1 (by decide)

/-- A letter of two bytes that arrives in two messages is not read, so that the wait for its echo
ends in a timeout; in one message it is. -/
theorem cut_letter_unread : [[0xc3], [0xa9]].flatten = Text.utf8 ['é'] ∧
    textOf [[0xc3], [0xa9]] = [Text.replacement, Text.replacement] ∧
    (readUntil "command echo" "127.0.0.1" (fun cs => Prompt.echoes cs "é".toList)
      (holding [[0xc3], [0xa9]])).1 = .error (.timeout "command echo" (.ofSeconds 5)) ∧
    (readUntil "command echo" "127.0.0.1" (fun cs => Prompt.echoes cs "é".toList)
      (holding [[0xc3, 0xa9]])).1 = .ok ['é'] := by
  decide

end Shell

end NodeDeploy
