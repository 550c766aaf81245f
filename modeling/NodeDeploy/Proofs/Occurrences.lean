import Mathlib.Data.List.Basic
import NodeDeploy.Proofs.Decoding
import NodeDeploy.Text.Search

/-! # First occurrences, by characters and by bytes

A search finds the first place at which a marker stands in a text. The places of a text can be
numbered by its bytes, and the marker be searched for in the bytes: as no byte inside a character
can be taken for the first one of another, that finds the same place, and to cut there never cuts a
character.

* `FirstAt` says that a marker stands at a place and nowhere earlier. `FirstAt.append` and
  `FirstAt.of_append`: what comes after it makes no difference.
* `Text.cut?_eq_some_iff`: what a search by characters finds.
* `Text.exists_of_utf8_eq_append`: bytes of a marker among the bytes of a text are the marker in
  the text. `Text.find?_utf8`: so the search by bytes finds the place.
* `Text.slice?_utf8`: a cut by the positions of bytes gives the characters between.
-/

namespace NodeDeploy

/-- A marker stands in a list between `before` and `after`, and nowhere earlier. -/
structure FirstAt {α : Type} (marker l before after : List α) : Prop where
  eq : l = before ++ marker ++ after
  first : ∀ b a, l = b ++ marker ++ a → before.length ≤ b.length

namespace FirstAt

variable {α : Type} {marker l before after : List α}

theorem unique (h : FirstAt marker l before after) {b a : List α} (g : FirstAt marker l b a) :
    before = b ∧ after = a := by
  have hlength := Nat.le_antisymm (h.first b a g.eq) (g.first before after h.eq)
  have heq : before ++ (marker ++ after) = b ++ (marker ++ a) := by
    rw [← List.append_assoc, ← List.append_assoc, ← h.eq, ← g.eq]
  obtain ⟨hbefore, hrest⟩ := List.append_inj heq hlength
  exact ⟨hbefore, List.append_cancel_left hrest⟩

/-- More text behind does not bring the marker earlier. -/
theorem append (h : FirstAt marker l before after) (more : List α) :
    FirstAt marker (l ++ more) before (after ++ more) where
  eq := by rw [h.eq, List.append_assoc]
  first b a hb := by
    refine Nat.le_of_not_lt fun hlt => ?_
    have hlength : (b ++ marker).length ≤ l.length := by
      rw [h.eq, List.append_assoc, List.length_append, List.length_append, List.length_append]
      omega
    obtain ⟨e, he⟩ := List.prefix_of_prefix_length_le ⟨a, hb.symm⟩ ⟨more, rfl⟩ hlength
    exact Nat.lt_irrefl _ (Nat.lt_of_lt_of_le hlt (h.first b e he.symm))

theorem of_append {more : List α} (h : FirstAt marker (l ++ more) before (after ++ more)) :
    FirstAt marker l before after where
  eq := by
    have heq := h.eq
    rw [← List.append_assoc] at heq
    exact List.append_cancel_right heq
  first b a hb := h.first b (a ++ more) (by rw [hb, List.append_assoc])

end FirstAt

namespace Text

/-! ## Searching by characters -/

/-- A search in a text that has the marker finds it there, or earlier. -/
theorem exists_cut?_append (marker before after : List Char) :
    ∃ b a, cut? marker (before ++ marker ++ after) = some (b, a) ∧ b.length ≤ before.length := by
  induction before with
  | nil =>
    rw [List.nil_append]
    cases hl : marker ++ after with
    | nil =>
      obtain ⟨rfl, rfl⟩ := List.append_eq_nil_iff.1 hl
      exact ⟨[], [], rfl, Nat.le_refl _⟩
    | cons c cs =>
      rw [cut?, ← hl, after?_append]
      exact ⟨[], after, rfl, Nat.le_refl _⟩
  | cons c before ih =>
    rw [List.cons_append, List.cons_append, cut?]
    split
    · next rest _ => exact ⟨[], rest, rfl, Nat.zero_le _⟩
    · obtain ⟨b, a, hcut, hle⟩ := ih
      exact ⟨c :: b, a, by rw [hcut]; rfl, Nat.succ_le_succ hle⟩

/-- **A search finds the first occurrence.** -/
theorem cut?_eq_some_iff {marker cs before after : List Char} :
    cut? marker cs = some (before, after) ↔ FirstAt marker cs before after := by
  have hfirst {b a : List Char} (h : cut? marker cs = some (b, a)) : FirstAt marker cs b a := by
    refine ⟨cut?_eq_some_imp h, fun b' a' heq => ?_⟩
    obtain ⟨c, d, hcut, hle⟩ := exists_cut?_append marker b' a'
    rw [← heq, h] at hcut
    obtain ⟨rfl, -⟩ := Prod.mk.inj (Option.some.inj hcut)
    exact hle
  refine ⟨hfirst, fun h => ?_⟩
  obtain ⟨b, a, hcut, -⟩ := exists_cut?_append marker before after
  rw [← h.eq] at hcut
  obtain ⟨rfl, rfl⟩ := h.unique (hfirst hcut)
  exact hcut

/-- A search finds something exactly where the marker is part of the text. -/
theorem exists_firstAt_iff {marker cs : List Char} :
    (∃ before after, FirstAt marker cs before after) ↔ marker <:+: cs := by
  constructor
  · rintro ⟨before, after, h⟩
    exact ⟨before, after, h.eq.symm⟩
  · rintro ⟨before, after, rfl⟩
    obtain ⟨b, a, hcut, -⟩ := exists_cut?_append marker before after
    exact ⟨b, a, cut?_eq_some_iff.1 hcut⟩

/-! ## Bytes of characters -/

/-- What follows a character can be told from the bytes, and so can the character. -/
theorem charBytes_append_inj {c d : Char} {bs es : List UInt8}
    (h : charBytes c ++ bs = charBytes d ++ es) : c = d ∧ bs = es := by
  have hread := congrArg (readBytes none) h
  rw [readBytes_charBytes, readBytes_charBytes] at hread
  obtain rfl := (List.cons.inj hread).1
  exact ⟨rfl, List.append_cancel_left h⟩

/-- Where the bytes of a text start with those of another one, the text starts with the other
one. -/
theorem exists_of_utf8_append_eq {ms cs : List Char} {bs : List UInt8}
    (h : utf8 ms ++ bs = utf8 cs) : ∃ after, cs = ms ++ after ∧ bs = utf8 after := by
  induction ms generalizing cs with
  | nil => exact ⟨cs, rfl, h⟩
  | cons m ms ih =>
    cases cs with
    | nil =>
      obtain ⟨first, rest, hbytes, -⟩ := charBytes_eq_cons m
      rw [utf8_cons, hbytes] at h
      cases h
    | cons c cs =>
      rw [utf8_cons, utf8_cons, List.append_assoc] at h
      obtain ⟨rfl, hrest⟩ := charBytes_append_inj h
      obtain ⟨after, rfl, hafter⟩ := ih hrest
      exact ⟨after, rfl, hafter⟩

/-- **Bytes of a marker among the bytes of a text are the marker in the text**: they start where a
character starts. -/
theorem exists_of_utf8_eq_append {marker cs : List Char} (hmarker : marker ≠ [])
    {bs es : List UInt8} (h : utf8 cs = bs ++ utf8 marker ++ es) :
    ∃ before after, cs = before ++ marker ++ after ∧ bs = utf8 before ∧ es = utf8 after := by
  obtain ⟨m, ms, rfl⟩ := List.exists_cons_of_ne_nil hmarker
  obtain ⟨start, others, hstart, hstarts, -⟩ := charBytes_eq_cons m
  rw [List.append_assoc] at h
  induction cs generalizing bs with
  | nil =>
    rw [utf8_cons, hstart] at h
    simp [utf8] at h
  | cons c cs ih =>
    rw [utf8_cons] at h
    rcases List.append_eq_append_iff.1 h with ⟨bs, rfl, hrest⟩ | ⟨inside, hc, hrest⟩
    · obtain ⟨before, after, rfl, rfl, rfl⟩ := ih hrest
      exact ⟨c :: before, after, rfl, rfl, rfl⟩
    -- Else it starts with the first character, right behind it, or inside it, where none starts.
    rcases bs with _ | ⟨b, bs⟩
    · have hfirst : utf8 (m :: ms) ++ es = utf8 (c :: cs) := h.symm
      obtain ⟨after, hcs, rfl⟩ := exists_of_utf8_append_eq hfirst
      exact ⟨[], after, hcs, rfl, rfl⟩
    rcases inside with _ | ⟨x, inside⟩
    · obtain ⟨after, rfl, rfl⟩ := exists_of_utf8_append_eq hrest
      exact ⟨[c], after, rfl, by simpa [utf8] using hc.symm, rfl⟩
    · obtain ⟨first, rest, hbytes, -, hcontinues⟩ := charBytes_eq_cons c
      rw [hbytes] at hc
      have hx : continues x = true := hcontinues x (by rw [(List.cons.inj hc).2]; simp)
      rw [utf8_cons, hstart] at hrest
      rw [← (List.cons.inj hrest).1, hstarts] at hx
      cases hx

/-! ## Searching and cutting by bytes -/

def find? (marker bs : List UInt8) : Option Nat := (bs.dropInfix? marker).map fun p => p.1.length

/-- **A search by bytes finds what a search by characters finds.** -/
theorem find?_utf8 {marker : List Char} (hmarker : marker ≠ []) (cs : List Char) :
    find? (utf8 marker) (utf8 cs) = (cut? marker cs).map fun p => (utf8 p.1).length := by
  have hfirst {before after : List Char} (h : FirstAt marker cs before after) :
      (utf8 cs).dropInfix? (utf8 marker) = some (utf8 before, utf8 after) := by
    refine List.dropInfix?_eq_some_iff.2 ⟨⟨utf8 marker, ?_, by simp⟩, fun bs ms es heq hms => ?_⟩
    · rw [h.eq, utf8_append, utf8_append]
    · rw [eq_of_beq hms] at heq
      obtain ⟨b, a, hcs, rfl, rfl⟩ := exists_of_utf8_eq_append hmarker heq
      obtain ⟨more, rfl⟩ := List.prefix_of_prefix_length_le
        ⟨marker ++ after, by rw [← List.append_assoc, ← h.eq]⟩
        ⟨marker ++ a, by rw [← List.append_assoc, ← hcs]⟩ (h.first b a hcs)
      rw [utf8_append, List.length_append]
      exact Nat.le_add_right _ _
  rw [find?]
  cases hcut : cut? marker cs with
  | some p => rw [hfirst (cut?_eq_some_iff.1 hcut), Option.map_some, Option.map_some]
  | none =>
    cases hbytes : (utf8 cs).dropInfix? (utf8 marker) with
    | none => rfl
    | some p =>
      obtain ⟨⟨ms, heq, hms⟩, -⟩ := List.dropInfix?_eq_some_iff.1 hbytes
      rw [eq_of_beq hms] at heq
      obtain ⟨b, a, hcs, -, -⟩ := exists_of_utf8_eq_append hmarker heq
      obtain ⟨before, after, hsome, -⟩ := exists_cut?_append marker b a
      rw [← hcs, hcut] at hsome
      cases hsome

/-- Whether bytes can be cut at a position: at the start, at the end, and where a character
starts. -/
def isBoundary (bs : List UInt8) (i : Nat) : Bool :=
  i == 0 || match bs[i]? with
    | some b => !continues b
    | none => i == bs.length

/-- The bytes from one position up to another one; there are none if the positions are out of order,
outside, or inside a character. -/
def slice? (bs : List UInt8) (low high : Nat) : Option (List UInt8) :=
  if low ≤ high ∧ isBoundary bs low ∧ isBoundary bs high then some (bs.extract low high) else none

/-- Where characters end, bytes can be cut. -/
theorem isBoundary_utf8 (cs ds : List Char) :
    isBoundary (utf8 cs ++ utf8 ds) (utf8 cs).length = true := by
  rw [isBoundary, Bool.or_eq_true]
  refine .inr ?_
  cases ds with
  | nil => simp [utf8]
  | cons d ds =>
    obtain ⟨first, rest, hbytes, hfirst, -⟩ := charBytes_eq_cons d
    simp [utf8_cons, hbytes, hfirst]

/-- **A cut by the positions of bytes gives the characters between.** -/
theorem slice?_utf8 (before cs after : List Char) :
    slice? (utf8 (before ++ cs ++ after)) (utf8 before).length (utf8 (before ++ cs)).length =
      some (utf8 cs) := by
  have hlow : isBoundary (utf8 (before ++ cs ++ after)) (utf8 before).length = true := by
    rw [List.append_assoc, utf8_append]
    exact isBoundary_utf8 before (cs ++ after)
  have hhigh : isBoundary (utf8 (before ++ cs ++ after)) (utf8 (before ++ cs)).length = true := by
    rw [utf8_append (before ++ cs)]
    exact isBoundary_utf8 (before ++ cs) after
  have hle : (utf8 before).length ≤ (utf8 (before ++ cs)).length := by
    rw [utf8_append, List.length_append]
    exact Nat.le_add_right _ _
  rw [slice?, if_pos ⟨hle, hlow, hhigh⟩]
  simp [utf8_append]

end Text

end NodeDeploy
