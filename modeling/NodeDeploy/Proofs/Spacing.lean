import NodeDeploy.Proofs.Variables

/-! # White space around values

A variable may have white space around its value. A flag and a number are read without it, but a
namespace is taken as it is, although a namespace that is nothing but white space counts as none.
So white space may change what namespaces the settings name, and nothing else.

* `Settings.SameTrimmed`: two variables have the same value, but for white space around it.
* `IgnoresSpacing` is a meaning of values that white space around them does not change.
  `Sets.respaced` and `Faulty.respaced`: then it does not change what a variable makes of a setting,
  nor whether the variable is at fault.
* `spacing_changes_namespaces` is the result, and `namespace_with_line_break` an input where the
  settings change.
-/

namespace NodeDeploy

theorem Text.trim_eq_nil_iff {cs : List Char} : trim cs = [] ↔ isBlankText cs = true := by
  rw [trim, trimEnd_eq_nil_iff]
  constructor
  · intro h
    rw [← List.takeWhile_append_dropWhile (p := isBlank) (l := cs), isBlankText, List.all_append,
      Bool.and_eq_true]
    exact ⟨List.all_takeWhile, h⟩
  · intro h
    refine List.all_eq_true.2 fun c hc => ?_
    exact List.all_eq_true.1 h c ((List.dropWhile_suffix _).subset hc)

theorem trimmed_eq_empty_iff {s : String} : trimmed s = "" ↔ isBlankString s = true := by
  have hnil : trimmed s = "" ↔ Text.trim s.toList = [] := by
    rw [trimmed, ← String.toList_inj, String.toList_ofList]
    rfl
  rw [hnil, Text.trim_eq_nil_iff]
  rfl

namespace Settings

/-! ## Values that are spaced differently -/

/-- Two variables have the same value, but for white space around it; one that is unset counts as
blank. -/
def SameTrimmed (v w : Option String) : Prop := trimmed (v.getD "") = trimmed (w.getD "")

instance (v w : Option String) : Decidable (SameTrimmed v w) := inferInstanceAs (Decidable (_ = _))

namespace SameTrimmed

variable {v w : Option String}

theorem isBlank_eq (h : SameTrimmed v w) :
    isBlankString (v.getD "") = isBlankString (w.getD "") := by
  have h : trimmed (v.getD "") = trimmed (w.getD "") := h
  rw [Bool.eq_iff_iff, ← trimmed_eq_empty_iff, ← trimmed_eq_empty_iff, h]

/-- A value that is not blank is spaced differently only by a value that is not blank either. -/
theorem exists_value {value : String} (h : SameTrimmed (some value) w)
    (hink : isBlankString value = false) :
    ∃ other, w = some other ∧ isBlankString other = false ∧ trimmed value = trimmed other := by
  have hblank : isBlankString value = isBlankString (w.getD "") := h.isBlank_eq
  rcases w with _ | other
  · rw [hink] at hblank
    cases hblank
  · exact ⟨other, rfl, hblank.symm.trans hink, h⟩

end SameTrimmed

section Meaning

variable {α : Type}

/-- White space around a value does not change what the value means, and alone it means nothing. -/
structure IgnoresSpacing (means : String → α → Prop) : Prop where
  respaced : ∀ value other x, trimmed value = trimmed other → means value x → means other x
  not_blank : ∀ value x, means value x → isBlankString value = false

theorem trim_eq_of_trimmed {v w : String} (h : trimmed v = trimmed w) :
    Text.trim v.toList = Text.trim w.toList := by
  have hlist := congrArg String.toList h
  rwa [trimmed, trimmed, String.toList_ofList, String.toList_ofList] at hlist

theorem ignoresSpacing_flag : IgnoresSpacing IsFlag where
  respaced value other b h hmeans := by
    rw [isFlag_iff] at hmeans ⊢
    rwa [← h]
  not_blank := reads_flag.not_blank

theorem ignoresSpacing_number (most : Nat) : IgnoresSpacing (IsNumber most) where
  respaced value other n h hmeans := by
    rw [← number?_eq_some_iff, number?] at hmeans ⊢
    rwa [← trim_eq_of_trimmed h]
  not_blank := (reads_number most).not_blank

theorem ignoresSpacing_seconds : IgnoresSpacing IsSeconds where
  respaced value other d h hmeans := by
    obtain ⟨n, hn, hd⟩ := hmeans
    exact ⟨n, (ignoresSpacing_number _).respaced value other n h hn, hd⟩
  not_blank := reads_seconds.not_blank

variable {vars others : String → Option String} {name : String} {means : String → α → Prop}
  {default x : α}

theorem sets_of_blank (h : isBlankString ((vars name).getD "") = true) :
    Sets vars name means default default := by
  cases hv : vars name with
  | none => exact .unset hv
  | some value => exact .blank hv (by simpa [hv] using h)

/-- **White space around a value does not change what the variable makes of a setting.** -/
theorem Sets.respaced (hm : IgnoresSpacing means) (hsame : SameTrimmed (vars name) (others name))
    (h : Sets vars name means default x) : Sets others name means default x := by
  cases h with
  | unset hnone =>
    refine sets_of_blank ?_
    rw [← hsame.isBlank_eq, hnone]
    rfl
  | blank hvalue hblank =>
    refine sets_of_blank ?_
    rw [← hsame.isBlank_eq, hvalue]
    exact hblank
  | value hvalue hmeans =>
    rw [hvalue] at hsame
    obtain ⟨other, hother, -, heq⟩ := hsame.exists_value (hm.not_blank _ _ hmeans)
    exact .value hother (hm.respaced _ _ _ heq hmeans)

/-- **Nor does it change whether the variable is at fault.** -/
theorem Faulty.respaced (hm : IgnoresSpacing means) (hsame : SameTrimmed (vars name) (others name))
    {value : String} (h : Faulty vars name means value) : ∃ other, Faulty others name means other := by
  rw [h.given] at hsame
  obtain ⟨other, hother, hink, heq⟩ := hsame.exists_value h.not_blank
  refine ⟨other, hother, hink, ?_⟩
  rintro ⟨x, hx⟩
  exact h.means_nothing ⟨x, hm.respaced _ _ _ heq.symm hx⟩

end Meaning

/-! ## Namespaces -/

def namespaceNames : List String := ["WATCH_NAMESPACE", "NODE_CONFIG_NAMESPACE"]

/-- Two variables give the same text: they are the same, or neither gives any. -/
def SameText (v w : Option String) : Prop :=
  v = w ∨ (isBlankString (v.getD "") = true ∧ isBlankString (w.getD "") = true)

section All

variable {vars others : String → Option String}

theorem given_eq_given_iff {name : String} :
    given vars name = given others name ↔ SameText (vars name) (others name) := by
  have hnone (l : String → Option String) :
      given l name = none ↔ isBlankString ((l name).getD "") = true := by
    have hempty : isBlankString "" = true := by decide
    rw [given_eq_none_iff]
    cases l name <;> simp [hempty]
  constructor
  · intro h
    cases hgiven : given others name with
    | none => exact .inr ⟨(hnone vars).1 (h.trans hgiven), (hnone others).1 hgiven⟩
    | some value =>
      have hvars := (given_eq_some_iff.1 (h.trans hgiven)).1
      exact .inl (hvars.trans (given_eq_some_iff.1 hgiven).1.symm)
  · rintro (h | ⟨hv, hw⟩)
    · rw [given, given, h]
    · rw [(hnone vars).2 hv, (hnone others).2 hw]

/-! ## All settings -/

/-- The settings with the namespaces that some variables give. -/
def renamed (s : Settings) (vars : String → Option String) : Settings :=
  { s with
    watchNamespace := given vars "WATCH_NAMESPACE"
    configNamespace := given vars "NODE_CONFIG_NAMESPACE" }

/-- The same settings are read from both, or none from either. -/
def ReadAlike (vars others : String → Option String) : Prop :=
  (∃ s, ofVariables vars = .ok s ∧ ofVariables others = .ok s) ∨
    (∃ f, ofVariables vars = .error f) ∧ ∃ f, ofVariables others = .error f

theorem Stands.respaced (h : ∀ name ∈ names, SameTrimmed (vars name) (others name)) {s : Settings}
    (hs : Stands vars s) : Stands others (s.renamed others) where
  watchNamespace := given_eq_iff.1 rfl
  configNamespace := given_eq_iff.1 rfl
  attachNetworks := hs.attachNetworks.respaced ignoresSpacing_flag (h _ (by decide))
  concurrency := hs.concurrency.respaced (ignoresSpacing_number _) (h _ (by decide))
  positive := hs.positive
  sessionTimeout := hs.sessionTimeout.respaced ignoresSpacing_seconds (h _ (by decide))
  sshPort := hs.sshPort.respaced (ignoresSpacing_number _) (h _ (by decide))

/-- The same variable is the first at fault. -/
theorem Fault.respaced (h : ∀ name ∈ names, SameTrimmed (vars name) (others name))
    {name what : String} (hf : Fault vars name what) : ∃ what', Fault others name what' := by
  have hflag := h "ENABLE_NAD" (by decide)
  have hconcurrency := h "NODE_DEPLOYER_CONCURRENCY" (by decide)
  have htimeout := h "DEVICE_SESSION_TIMEOUT_SECS" (by decide)
  have hport := h "DEVICE_SSH_PORT" (by decide)
  cases hf with
  | attachNetworks hfaulty =>
    obtain ⟨other, hother⟩ := hfaulty.respaced ignoresSpacing_flag hflag
    exact ⟨_, .attachNetworks hother⟩
  | concurrency hb hfaulty =>
    obtain ⟨other, hother⟩ := hfaulty.respaced (ignoresSpacing_number _) hconcurrency
    exact ⟨_, .concurrency (hb.respaced ignoresSpacing_flag hflag) hother⟩
  | sessionTimeout hb hn hfaulty =>
    obtain ⟨other, hother⟩ := hfaulty.respaced ignoresSpacing_seconds htimeout
    exact ⟨_, .sessionTimeout (hb.respaced ignoresSpacing_flag hflag)
      (hn.respaced (ignoresSpacing_number _) hconcurrency) hother⟩
  | sshPort hb hn hd hfaulty =>
    obtain ⟨other, hother⟩ := hfaulty.respaced (ignoresSpacing_number _) hport
    exact ⟨_, .sshPort (hb.respaced ignoresSpacing_flag hflag)
      (hn.respaced (ignoresSpacing_number _) hconcurrency)
      (hd.respaced ignoresSpacing_seconds htimeout) hother⟩
  | zero hb hn hd hp =>
    exact ⟨_, .zero (hb.respaced ignoresSpacing_flag hflag)
      (hn.respaced (ignoresSpacing_number _) hconcurrency)
      (hd.respaced ignoresSpacing_seconds htimeout) (hp.respaced (ignoresSpacing_number _) hport)⟩

theorem renamed_eq_self_iff {s : Settings} (hs : ofVariables vars = .ok s) :
    s.renamed others = s ↔ ∀ name ∈ namespaceNames, SameText (vars name) (others name) := by
  have hstands := ofVariables_eq_ok_iff.1 hs
  have hwatch := given_eq_iff.2 hstands.watchNamespace
  have hconfig := given_eq_iff.2 hstands.configNamespace
  simp only [namespaceNames, List.forall_mem_cons, ← given_eq_given_iff, hwatch, hconfig]
  constructor
  · intro h
    exact ⟨congrArg watchNamespace h.symm, congrArg configNamespace h.symm,
      fun _ hmem => nomatch hmem⟩
  · rintro ⟨hw, hc, -⟩
    rw [renamed, ← hw, ← hc]

/-- **White space around values changes nothing but namespaces.** Of two assignments of values that
are the same but for white space around them, both can be read or neither. If both can, the settings
are the same but for the namespaces, which are the values as they are; if not, the same variable is
at fault. So the same is read exactly if it cannot be read, or each of the two namespaces is given
by the same text, or by none, in both. -/
theorem spacing_changes_namespaces (vars others : String → Option String)
    (h : ∀ name ∈ names, SameTrimmed (vars name) (others name)) :
    (∀ s, ofVariables vars = .ok s → ofVariables others = .ok (s.renamed others)) ∧
    (∀ f, ofVariables vars = .error f → ∃ name what what',
      f = .invalidConfig (name ++ " must be " ++ what) ∧
      ofVariables others = .error (.invalidConfig (name ++ " must be " ++ what'))) ∧
    (ReadAlike vars others ↔ (∃ f, ofVariables vars = .error f) ∨
      ∀ name ∈ namespaceNames, SameText (vars name) (others name)) := by
  have hok (s : Settings) (hs : ofVariables vars = .ok s) :
      ofVariables others = .ok (s.renamed others) :=
    ofVariables_eq_ok_iff.2 ((ofVariables_eq_ok_iff.1 hs).respaced h)
  have herror (f : Failure) (hf : ofVariables vars = .error f) : ∃ name what what',
      f = .invalidConfig (name ++ " must be " ++ what) ∧
      ofVariables others = .error (.invalidConfig (name ++ " must be " ++ what')) := by
    obtain ⟨name, what, hfault, rfl⟩ := ofVariables_eq_error_iff.1 hf
    obtain ⟨what', hfault'⟩ := hfault.respaced h
    exact ⟨name, what, what', rfl, ofVariables_eq_error_iff.2 ⟨name, what', hfault', rfl⟩⟩
  refine ⟨hok, herror, ?_⟩
  cases hread : ofVariables vars with
  | error f =>
    obtain ⟨name, what, what', -, hother⟩ := herror f hread
    exact iff_of_true (.inr ⟨⟨f, hread⟩, _, hother⟩) (.inl ⟨f, rfl⟩)
  | ok s =>
    have hother := hok s hread
    rw [← renamed_eq_self_iff hread, ReadAlike, hread, hother]
    simp [eq_comm]

def trimmedSample (name : String) : Option String := (sampleVariables name).map trimmed

/-- White space around a flag and a number changes nothing. -/
theorem spacing_changes_namespaces_sample :
    (∀ name ∈ names, SameTrimmed (sampleVariables name) (trimmedSample name)) ∧
    (∀ name ∈ namespaceNames, SameText (sampleVariables name) (trimmedSample name)) ∧
    ReadAlike sampleVariables trimmedSample := by
  have hsame : ∀ name ∈ names, SameTrimmed (sampleVariables name) (trimmedSample name) := by decide
  have htext : ∀ name ∈ namespaceNames,
      SameText (sampleVariables name) (trimmedSample name) := by
    simp only [namespaceNames, List.forall_mem_cons]
    exact ⟨.inl rfl, .inl rfl, fun _ hmem => nomatch hmem⟩
  obtain ⟨-, -, halike⟩ := spacing_changes_namespaces sampleVariables trimmedSample hsame
  exact ⟨hsame, htext, halike.2 (.inr htext)⟩

def watching (ns : String) (name : String) : Option String :=
  if name = "WATCH_NAMESPACE" then some ns else none

/-- **A line break after a namespace is taken for a part of it.** -/
theorem namespace_with_line_break :
    (∀ name ∈ names, SameTrimmed (watching "lab\n" name) (watching "lab" name)) ∧
    ofVariables (watching "lab\n") = .ok { watchNamespace := some "lab\n" } ∧
    ofVariables (watching "lab") = .ok { watchNamespace := some "lab" } ∧
    ¬ReadAlike (watching "lab\n") (watching "lab") := by
  have hbroken : ofVariables (watching "lab\n") = .ok { watchNamespace := some "lab\n" } := by rfl
  have hplain : ofVariables (watching "lab") = .ok { watchNamespace := some "lab" } := by rfl
  refine ⟨by decide, hbroken, hplain, ?_⟩
  rw [ReadAlike, hbroken, hplain]
  rintro (⟨s, hs, hs'⟩ | ⟨⟨f, hf⟩, -⟩)
  · have hsame := Except.ok.inj (hs.trans hs'.symm)
    exact absurd (congrArg watchNamespace hsame) (by decide)
  · cases hf

end All

end Settings

end NodeDeploy
