import NodeDeploy.Device.Prompt

/-! # White space in output

A terminal breaks lines and redraws them, so what is looked for in the output of a device does not
depend on white space. An echo is a subsequence of the output, which what is drawn between its
characters cannot spoil. A prompt is told by one character, although it is looked for line by line.

* `Prompt.inked` is what is left of a text without its white space.
* `Prompt.inOrder_iff_sublist`: characters are found in order exactly if they are a subsequence.
* `echoes_iff_subsequence`: so an echo is found whatever is drawn within it, and however the command
  is spaced.
* `Prompt.LastInk` is the last character of a text that is not white space, and `Prompt.lastInk?`
  finds it. `inked_lines`: cutting a text into lines takes away white space only.
* `prompt_is_last_ink`: so a prompt is a terminator in this place, whatever white space follows and
  whatever text stands before.
-/

namespace NodeDeploy

namespace Prompt

/-! ## Echoes -/

/-- **Characters stand in order in a text exactly if they are a subsequence of it.** -/
theorem inOrder_iff_sublist {ws cs : List Char} : inOrder ws cs = true ↔ ws.Sublist cs := by
  fun_induction inOrder ws cs with
  | case1 cs => simp
  | case2 w ws => simp
  | case3 w ws cs ih => rw [ih, List.cons_sublist_cons]
  | case4 w ws c cs h ih =>
    rw [ih]
    constructor
    · exact fun hsub => hsub.cons c
    · intro hsub
      cases hsub with
      | cons _ hsub => exact hsub
      | cons_cons _ hsub => exact absurd rfl h

/-- The characters of a command that count. -/
def inked (command : List Char) : List Char := command.filter fun c => !Text.isBlank c

theorem echoes_iff {cs command : List Char} :
    echoes cs command = true ↔ (inked command).Sublist cs := inOrder_iff_sublist

/-- An echo that has shown does not vanish. -/
theorem echoes_mono {cs ds command : List Char} (h : echoes cs command = true)
    (hsub : cs.Sublist ds) : echoes ds command = true :=
  echoes_iff.2 ((echoes_iff.1 h).trans hsub)

/-- Of a text, only the characters that the command may have matter to its echo. -/
theorem echoes_filter {p : Char → Bool} {command : List Char} (hp : ∀ c ∈ inked command, p c = true)
    (cs : List Char) : echoes (cs.filter p) command = echoes cs command := by
  rw [Bool.eq_iff_iff, echoes_iff, echoes_iff]
  constructor
  · exact fun h => h.trans List.filter_sublist
  · intro h
    have hfilter := h.filter p
    rwa [List.filter_eq_self.2 hp] at hfilter

theorem inked_append (cs ds : List Char) : inked (cs ++ ds) = inked cs ++ inked ds :=
  List.filter_append ..

theorem inked_eq_nil_iff {cs : List Char} : inked cs = [] ↔ Text.isBlankText cs = true := by
  simp [inked, Text.isBlankText]

end Prompt

/-- **A command is echoed exactly if its characters, white space left aside, are a subsequence of
the output.** Whatever is inserted into output that shows an echo, wherever, the echo still shows;
and white space that is inserted into the command makes no difference. -/
theorem echoes_iff_subsequence (output command : String) :
    (echoes output command = true ↔
      (Prompt.inked command.toList).Sublist output.toList) ∧
    (∀ before inserted after, output = before ++ after → echoes output command = true →
      echoes (before ++ inserted ++ after) command = true) ∧
    ∀ before blank after, command = before ++ after → isBlankString blank = true →
      echoes output (before ++ blank ++ after) = echoes output command := by
  refine ⟨Prompt.echoes_iff, ?_, ?_⟩
  · rintro before inserted after rfl h
    refine Prompt.echoes_mono h ?_
    simp only [String.toList_append, List.append_assoc]
    exact (List.sublist_append_right _ _).append_left _
  · rintro before blank after rfl hblank
    have hnil : Prompt.inked blank.toList = [] := Prompt.inked_eq_nil_iff.2 hblank
    rw [Bool.eq_iff_iff, echoes, echoes, Prompt.echoes_iff, Prompt.echoes_iff]
    simp only [String.toList_append, Prompt.inked_append, hnil, List.append_nil]

/-- A command that a terminal breaks over two lines and redraws is echoed, also with a clearing of
the line in between, and however it is spaced. -/
theorem echoes_iff_subsequence_sample :
    echoes "set / sys\r\ntem tls" "set / system tls" = true ∧
    echoes ("set / sys\r\n" ++ "\x1b[K" ++ "tem tls") "set / system tls" = true ∧
    isBlankString " \t" = true ∧
    echoes "set / sys\r\ntem tls" ("set / system" ++ " \t" ++ " tls") = true := by
  have hecho : echoes "set / sys\r\ntem tls" "set / system tls" = true := by decide
  have hblank : isBlankString " \t" = true := by decide
  obtain ⟨-, hinserted, hspaced⟩ :=
    echoes_iff_subsequence "set / sys\r\ntem tls" "set / system tls"
  refine ⟨hecho, hinserted "set / sys\r\n" "\x1b[K" "tem tls" rfl hecho, hblank, ?_⟩
  exact (hspaced "set / system" " \t" " tls" rfl hblank).trans hecho

/-! ## Lines -/

namespace Text

/-- A text is the line before the first line feed and what comes with the line feed, if there is
one. -/
theorem cutLine_spec (cs : List Char) :
    cs = (cutLine cs).1 ++ ((cutLine cs).2.map ('\n' :: ·)).getD [] := by
  induction cs with
  | nil => rfl
  | cons c rest ih =>
    rw [cutLine]
    split
    · next h => rw [h]; rfl
    · exact congrArg (c :: ·) ih

end Text

namespace Prompt

theorem inked_dropReturn (cs : List Char) : inked (Text.dropReturn cs) = inked cs := by
  fun_induction Text.dropReturn cs with
  | case1 => rfl
  | case2 => rfl
  | case3 c rest h ih =>
    have hcons (ds : List Char) : inked (c :: ds) = inked [c] ++ inked ds :=
      inked_append [c] ds
    rw [hcons, hcons rest, ih]

/-- **Cutting a text into lines takes away white space only.** -/
theorem inked_lines (cs : List Char) : inked (Text.lines cs).flatten = inked cs := by
  fun_induction Text.lines cs with
  | case1 => rfl
  | case2 c rest line after h ih =>
    have hcut := Text.cutLine_spec (c :: rest)
    rw [h] at hcut
    have hfeed : inked ('\n' :: after) = inked after := rfl
    rw [List.flatten_cons, inked_append, inked_dropReturn, ih, hcut, inked_append]
    exact congrArg (inked line ++ ·) hfeed.symm
  | case3 c rest line h =>
    have hcut := Text.cutLine_spec (c :: rest)
    rw [h] at hcut
    simpa using congrArg inked hcut.symm

/-! ## The last character that is not white space -/

/-- The character is the last one of the text that is not white space. -/
def LastInk (c : Char) (cs : List Char) : Prop :=
  ∃ before after, cs = before ++ c :: after ∧ Text.isBlank c = false ∧ Text.isBlankText after = true

def lastInk? (cs : List Char) : Option Char := (inked cs).getLast?

theorem lastInk?_eq_none_iff {cs : List Char} :
    lastInk? cs = none ↔ Text.isBlankText cs = true := by
  rw [lastInk?, List.getLast?_eq_none_iff, inked_eq_nil_iff]

theorem lastInk?_eq_some_iff {cs : List Char} {c : Char} :
    lastInk? cs = some c ↔ LastInk c cs := by
  rw [lastInk?, List.getLast?_eq_some_iff]
  constructor
  · rintro ⟨others, h⟩
    obtain ⟨before, rest, rfl, -, hrest⟩ := List.filter_eq_append_iff.1 h
    obtain ⟨blank, after, rfl, -, hc, hafter⟩ := List.filter_eq_cons_iff.1 hrest
    exact ⟨before ++ blank, after, by simp, by simpa using hc, inked_eq_nil_iff.1 hafter⟩
  · rintro ⟨before, after, rfl, hc, hafter⟩
    refine ⟨inked before, ?_⟩
    have hlast : inked (c :: after) = [c] := by
      rw [inked, List.filter_cons_of_pos (by simp [hc])]
      exact congrArg (c :: ·) (inked_eq_nil_iff.2 hafter)
    rw [inked_append, hlast]

/-- Of two texts, the last such character is that of the second, if this has one. -/
theorem lastInk?_append (cs ds : List Char) :
    lastInk? (cs ++ ds) = (lastInk? ds).or (lastInk? cs) := by
  rw [lastInk?, inked_append, List.getLast?_append, lastInk?, lastInk?]

theorem getLast?_trimEnd (cs : List Char) : (Text.trimEnd cs).getLast? = lastInk? cs := by
  induction cs with
  | nil => rfl
  | cons c rest ih =>
    have hcons : lastInk? (c :: rest) = (lastInk? rest).or (lastInk? [c]) :=
      lastInk?_append [c] rest
    rw [hcons, ← ih, Text.trimEnd]
    split
    · next h =>
      rw [h]
      cases hc : Text.isBlank c <;> simp [lastInk?, inked, hc]
    · next d ds h =>
      rw [h, List.getLast?_cons_cons]
      simp [List.getLast?_cons]

/-- In the last of some lines that is not blank stands the last such character of them all. -/
theorem lastInk?_lastLine (lines : List (List Char)) :
    ((lines.reverse.find? fun line => !Text.isBlankText line).bind lastInk?) =
      lastInk? lines.flatten := by
  induction lines with
  | nil => rfl
  | cons line lines ih =>
    rw [List.reverse_cons, List.find?_append, List.flatten_cons, lastInk?_append, ← ih]
    rcases hfound : lines.reverse.find? fun line => !Text.isBlankText line with _ | last
    · cases hblank : Text.isBlankText line with
      | false => simp [hblank]
      | true => simp [hblank, lastInk?_eq_none_iff.2 hblank]
    · have hink : lastInk? last ≠ none := by
        intro hnone
        have hlast := List.find?_some hfound
        rw [lastInk?_eq_none_iff.1 hnone] at hlast
        cases hlast
      obtain ⟨c, hc⟩ := Option.ne_none_iff_exists'.1 hink
      simp [hc]

/-- **A prompt is told by one character.** -/
theorem endsWithPrompt_eq (terminators cs : List Char) :
    endsWithPrompt terminators cs = (lastInk? cs).any terminators.contains := by
  have hline (line : List Char) :
      isPromptLine terminators line = (lastInk? line).any terminators.contains := by
    rw [isPromptLine, getLast?_trimEnd]
    cases lastInk? line <;> rfl
  have hlast : lastInk? (Text.lines cs).flatten = lastInk? cs := by
    rw [lastInk?, inked_lines, lastInk?]
  rw [endsWithPrompt, ← hlast, ← lastInk?_lastLine]
  cases (Text.lines cs).reverse.find? fun line => !Text.isBlankText line with
  | none => rfl
  | some line => exact hline line

end Prompt

/-- **Output ends in a prompt exactly if its last character that is not white space is a
terminator.** White space after it makes no difference, and neither does text before output that is
not blank. -/
theorem prompt_is_last_ink (terminators : List Char) (output : String) :
    (endsWithPrompt terminators output = true ↔
      ∃ c ∈ terminators, Prompt.LastInk c output.toList) ∧
    (∀ blank, isBlankString blank = true →
      endsWithPrompt terminators (output ++ blank) = endsWithPrompt terminators output) ∧
    (isBlankString output = false → ∀ before,
      endsWithPrompt terminators (before ++ output) = endsWithPrompt terminators output) := by
  have heq (text : String) : endsWithPrompt terminators text =
      (Prompt.lastInk? text.toList).any terminators.contains :=
    Prompt.endsWithPrompt_eq terminators text.toList
  simp only [heq, String.toList_append, Prompt.lastInk?_append]
  refine ⟨?_, ?_, ?_⟩
  · simp [Option.any_eq_true, Prompt.lastInk?_eq_some_iff, and_comm]
  · intro blank hblank
    rw [Prompt.lastInk?_eq_none_iff.2 hblank, Option.none_or]
  · intro hink before
    have hsome : Prompt.lastInk? output.toList ≠ none := by
      intro hnone
      have hblank : isBlankString output = true := Prompt.lastInk?_eq_none_iff.1 hnone
      rw [hblank] at hink
      cases hink
    obtain ⟨c, hc⟩ := Option.ne_none_iff_exists'.1 hsome
    rw [hc, Option.some_or]

/-- A prompt, with line breaks and another blank after it and a line before it. -/
theorem prompt_is_last_ink_sample : isBlankString " \r\n\u2003" = true ∧
    isBlankString "A:srl#" = false ∧
    endsWithPrompt ['#'] "A:srl#" = true ∧
    endsWithPrompt ['#'] ("A:srl#" ++ " \r\n\u2003") = true ∧
    endsWithPrompt ['#'] ("--[  ]--\r" ++ "A:srl#") = true := by
  have hblank : isBlankString " \r\n\u2003" = true := by decide
  have hink : isBlankString "A:srl#" = false := by decide
  obtain ⟨hiff, hafter, hbefore⟩ := prompt_is_last_ink ['#'] "A:srl#"
  have hprompt : endsWithPrompt ['#'] "A:srl#" = true :=
    hiff.2 ⟨'#', by decide, "A:srl".toList, [], by decide, by decide, rfl⟩
  exact ⟨hblank, hink, hprompt, (hafter _ hblank).trans hprompt,
    (hbefore hink _).trans hprompt⟩

end NodeDeploy
