import Mathlib.Data.Nat.Digits.Defs
import NodeDeploy.Proofs.Numerals
import NodeDeploy.Proofs.Objects
import NodeDeploy.Settings

/-! # What variables may say

The settings are read from variables exactly if each says something: a flag is one of six words, in
any case; a number is written in ASCII digits, perhaps with a plus sign before them, and has a
limit. White space around these does not count, and a variable that is unset or blank leaves its
setting at the default. The first variable at fault is the one that is complained about.

* `Settings.Padded` is a text with white space around it, and `trim_of_padded` takes it off.
* `Text.Spells` is the grammar of numerals: `readUnsigned?_eq_some_iff`.
* `IsFlag`, `IsNumber`, `IsSeconds` and `IsText` say what a value means. `Settings.Reads`: a reader
  reads this meaning, and complains of a value without one.
* `Sets` is what a variable makes of a setting, and `Stands` what the variables make of all.
* `Fault` is the variable that is at fault first, and what is said of it.
* `settings_of_variables` is the result.
-/

namespace NodeDeploy

/-! ## White space around a text -/

namespace Text

theorem trimEnd_of_ink {core : List Char} (hne : core ≠ []) (h : ∀ c ∈ core, isBlank c = false) :
    trimEnd core = core := by
  rw [← List.dropLast_concat_getLast hne]
  exact trimEnd_eq_self (h _ (List.getLast_mem hne))

theorem trimStart_of_ink {core : List Char} (hne : core ≠ [])
    (h : ∀ c ∈ core, isBlank c = false) {before : List Char} (hb : isBlankText before = true)
    (after : List Char) : trimStart (before ++ core ++ after) = core ++ after := by
  obtain ⟨c, cs, rfl⟩ := List.exists_cons_of_ne_nil hne
  rw [trimStart, List.append_assoc, List.dropWhile_append_of_pos (List.all_eq_true.1 hb)]
  simp [h c]

/-- White space around a text without any is taken off. -/
theorem trim_of_ink {before core after : List Char} (hb : isBlankText before = true)
    (ha : isBlankText after = true) (hne : core ≠ []) (h : ∀ c ∈ core, isBlank c = false) :
    trim (before ++ core ++ after) = core := by
  rw [trim, trimStart_of_ink hne h hb, trimEnd_append_blank ha, trimEnd_of_ink hne h]

theorem exists_trimEnd (cs : List Char) :
    ∃ after, cs = trimEnd cs ++ after ∧ isBlankText after = true := by
  induction cs with
  | nil => exact ⟨[], rfl, rfl⟩
  | cons c cs ih =>
    obtain ⟨after, hcs, hafter⟩ := ih
    rw [trimEnd]
    split
    · next hnil =>
      rw [hnil, List.nil_append] at hcs
      subst hcs
      split
      · next hc => exact ⟨c :: cs, rfl, by simpa [isBlankText, hc] using hafter⟩
      · exact ⟨cs, rfl, hafter⟩
    · next d ds hd =>
      rw [hd] at hcs
      exact ⟨after, congrArg (c :: ·) hcs, hafter⟩

/-- What is taken off is white space. -/
theorem exists_trim (cs : List Char) : ∃ before after, cs = before ++ trim cs ++ after ∧
    isBlankText before = true ∧ isBlankText after = true := by
  obtain ⟨after, hafter, hblank⟩ := exists_trimEnd (trimStart cs)
  refine ⟨cs.takeWhile isBlank, after, ?_, List.all_takeWhile, hblank⟩
  rw [List.append_assoc, trim, ← hafter, trimStart, List.takeWhile_append_dropWhile]

end Text

/-! ## Numerals -/

namespace Text

theorem isDigit_eq (c : Char) : isDigit c = c.isDigit := by
  rw [Bool.eq_iff_iff]
  simp only [isDigit, Char.isDigit, Bool.and_eq_true, decide_eq_true_eq]
  exact Iff.rfl

/-- A numeral of `n`: one or more ASCII digits, perhaps with a plus sign before them. -/
def Spells (n : Nat) (cs : List Char) : Prop :=
  ∃ sign digits, cs = sign ++ digits ∧ (sign = [] ∨ sign = ['+']) ∧ digits ≠ [] ∧
    (∀ d ∈ digits, d.isDigit = true) ∧
    n = Nat.ofDigits 10 (digits.reverse.map fun d => d.toNat - '0'.toNat)

/-- The value of digits, the last of which is that of the units. -/
theorem digitsValue_eq (n : Nat) (ds : List Char) : digitsValue n ds =
    n * 10 ^ ds.length + Nat.ofDigits 10 (ds.reverse.map fun d => d.toNat - '0'.toNat) := by
  induction ds generalizing n with
  | nil => simp [digitsValue]
  | cons d ds ih =>
    have hstep : digitsValue n (d :: ds) = digitsValue (n * 10 + digitValue d) ds := rfl
    rw [hstep, ih, List.reverse_cons, List.map_append, Nat.ofDigits_append]
    simp only [List.length_map, List.length_reverse, List.map_cons, List.map_nil,
      Nat.ofDigits_singleton, List.length_cons, digitValue, Nat.pow_succ]
    have hzero : '0'.toNat = 48 := rfl
    rw [hzero]
    ring

theorem readDigits?_eq_some_iff {cs : List Char} {n : Nat} : readDigits? cs = some n ↔
    cs ≠ [] ∧ (∀ d ∈ cs, d.isDigit = true) ∧
      n = Nat.ofDigits 10 (cs.reverse.map fun d => d.toNat - '0'.toNat) := by
  have hvalue := digitsValue_eq 0 cs
  rw [Nat.zero_mul, Nat.zero_add] at hvalue
  have hall : cs.all isDigit = true ↔ ∀ d ∈ cs, d.isDigit = true := by
    simp only [List.all_eq_true, isDigit_eq]
  rw [readDigits?, hvalue, ← hall]
  by_cases hne : cs = []
  · simp [hne]
  have hsome : cs.isEmpty = false := by simpa using hne
  rw [hsome, Bool.false_or]
  cases cs.all isDigit with
  | false => simp
  | true => exact ⟨fun h => ⟨hne, rfl, (Option.some.inj h).symm⟩, fun h => congrArg some h.2.2.symm⟩

/-- **A number is read exactly if a numeral of it stands there.** -/
theorem readUnsigned?_eq_some_iff {cs : List Char} {n : Nat} :
    readUnsigned? cs = some n ↔ Spells n cs := by
  rw [readUnsigned?.eq_def]
  split
  · next ds =>
    rw [readDigits?_eq_some_iff]
    constructor
    · rintro ⟨hne, hall, hn⟩
      exact ⟨['+'], ds, rfl, .inr rfl, hne, hall, hn⟩
    · rintro ⟨sign, digits, hcs, rfl | rfl, hne, hall, hn⟩
      · -- A plus sign is no digit.
        subst hcs
        exact absurd (hall '+' (by simp)) (by decide)
      · obtain rfl := List.cons.inj hcs |>.2
        exact ⟨hne, hall, hn⟩
  · next hplus =>
    rw [readDigits?_eq_some_iff]
    constructor
    · rintro ⟨hne, hall, hn⟩
      exact ⟨[], cs, rfl, .inl rfl, hne, hall, hn⟩
    · rintro ⟨sign, digits, rfl, rfl | rfl, hne, hall, hn⟩
      · exact ⟨hne, hall, hn⟩
      · exact absurd rfl (hplus digits)

theorem Spells.ne_nil {n : Nat} {cs : List Char} (h : Spells n cs) : cs ≠ [] := by
  obtain ⟨sign, digits, rfl, -, hne, -, -⟩ := h
  simp [hne]

theorem Spells.ink {n : Nat} {cs : List Char} (h : Spells n cs) : ∀ c ∈ cs, isBlank c = false := by
  obtain ⟨sign, digits, rfl, hsign, -, hall, -⟩ := h
  intro c hc
  rcases List.mem_append.1 hc with hc | hc
  · rcases hsign with rfl | rfl
    · cases hc
    · obtain rfl := List.mem_singleton.1 hc
      decide
  · exact isBlank_of_isDigit ((isDigit_eq c).trans (hall c hc))

end Text

namespace Settings

/-! ## What a value means -/

/-- A value is a text with white space around it. -/
def Padded (value : String) (core : List Char) : Prop :=
  ∃ before after, value.toList = before ++ core ++ after ∧ Text.isBlankText before = true ∧
    Text.isBlankText after = true

theorem padded_trim (value : String) : Padded value (Text.trim value.toList) :=
  Text.exists_trim value.toList

theorem trim_of_padded {value : String} {core : List Char} (h : Padded value core)
    (hne : core ≠ []) (hink : ∀ c ∈ core, Text.isBlank c = false) :
    Text.trim value.toList = core := by
  obtain ⟨before, after, hvalue, hbefore, hafter⟩ := h
  rw [hvalue, Text.trim_of_ink hbefore hafter hne hink]

theorem not_blank_of_padded {value : String} {core : List Char} (h : Padded value core)
    (hne : core ≠ []) (hink : ∀ c ∈ core, Text.isBlank c = false) :
    isBlankString value = false := by
  obtain ⟨before, after, hvalue, -, -⟩ := h
  obtain ⟨c, cs, rfl⟩ := List.exists_cons_of_ne_nil hne
  refine Bool.eq_false_iff.2 fun hblank => ?_
  have hc := List.all_eq_true.1 hblank c (by rw [hvalue]; simp)
  rw [hink c List.mem_cons_self] at hc
  cases hc

def flagWords (b : Bool) : List String := if b then ["true", "1", "yes"] else ["false", "0", "no"]

def IsFlag (value : String) (b : Bool) : Prop :=
  ∃ core, Padded value core ∧ String.ofList (core.map Char.toLower) ∈ flagWords b

def IsNumber (most : Nat) (value : String) (n : Nat) : Prop :=
  n ≤ most ∧ ∃ core, Padded value core ∧ Text.Spells n core

def IsSeconds (value : String) (d : Duration) : Prop :=
  ∃ n, IsNumber 0xffffffffffffffff value n ∧ d.nanos = n * 1000000000

/-- The value itself, unless it is blank. -/
def IsText (value : String) (text : Option String) : Prop :=
  isBlankString value = false ∧ text = some value

/-- A reader reads what values mean, and has a complaint about those that mean nothing. -/
structure Reads {α : Type} (read : String → String → Except Failure α)
    (means : String → α → Prop) (complaint : String → String) : Prop where
  ok_iff : ∀ name value x, read name value = .ok x ↔ means value x
  complains : ∀ name value, (¬∃ x, means value x) →
    read name value = .error (.invalidConfig (name ++ " must be " ++ complaint value))
  not_blank : ∀ value x, means value x → isBlankString value = false

theorem number?_eq_some_iff {most n : Nat} {value : String} :
    number? most value = some n ↔ IsNumber most value n := by
  rw [number?, Option.filter_eq_some_iff, Text.readUnsigned?_eq_some_iff, decide_eq_true_eq]
  constructor
  · rintro ⟨hspells, hle⟩
    exact ⟨hle, _, padded_trim value, hspells⟩
  · rintro ⟨hle, core, hpadded, hspells⟩
    rw [trim_of_padded hpadded hspells.ne_nil hspells.ink]
    exact ⟨hspells, hle⟩

theorem must_be {words kind : String} (h : words = " must be " ++ kind) (name got : String) :
    name ++ words ++ got = name ++ " must be " ++ (kind ++ got) := by
  rw [h]
  simp only [String.append_assoc]

def numberComplaint (value : String) : String := "a number, got " ++ quoted value

theorem reads_number (most : Nat) : Reads (readNumber most) (IsNumber most) numberComplaint where
  ok_iff name value n := by
    rw [← number?_eq_some_iff, readNumber]
    cases number? most value <;> simp
  complains name value h := by
    simp only [← number?_eq_some_iff] at h
    rw [readNumber]
    cases hn : number? most value with
    | none => exact congrArg (Except.error ∘ Failure.invalidConfig) (must_be (by decide) name _)
    | some n => exact absurd ⟨n, hn⟩ h
  not_blank value n h := by
    obtain ⟨-, core, hpadded, hspells⟩ := h
    exact not_blank_of_padded hpadded hspells.ne_nil hspells.ink

theorem nanos_ofSeconds {n : Nat} (h : n ≤ 0xffffffffffffffff) :
    (Duration.ofSeconds (UInt64.ofNat n)).nanos = n * 1000000000 := by
  have hn : (UInt64.ofNat n).toNat = n := UInt64.toNat_ofNat_of_lt' (Nat.lt_succ_of_le h)
  exact congrArg (· * 1000000000) hn

theorem reads_seconds : Reads readSeconds IsSeconds numberComplaint where
  ok_iff name value d := by
    have hread := (reads_number 0xffffffffffffffff).ok_iff name value
    rw [readSeconds]
    constructor
    · intro h
      cases hn : readNumber 0xffffffffffffffff name value with
      | error f =>
        rw [hn] at h
        cases h
      | ok n =>
        rw [hn] at h
        cases h
        have hnumber := (hread n).1 hn
        exact ⟨n, hnumber, nanos_ofSeconds hnumber.1⟩
    · rintro ⟨n, hnumber, hd⟩
      rw [(hread n).2 hnumber]
      exact congrArg Except.ok (Duration.ext ((nanos_ofSeconds hnumber.1).trans hd.symm))
  complains name value h := by
    have hnone : ¬∃ n, IsNumber 0xffffffffffffffff value n := by
      rintro ⟨n, hn⟩
      exact h ⟨.ofSeconds (UInt64.ofNat n), n, hn, nanos_ofSeconds hn.1⟩
    rw [readSeconds, (reads_number _).complains name value hnone]
    rfl
  not_blank value n h := by
    obtain ⟨n, hn, -⟩ := h
    exact (reads_number _).not_blank value n hn

/-! ## Flags -/

theorem flag?_eq_some_iff {word : String} {b : Bool} :
    flag? word = some b ↔ word ∈ flagWords b := by
  rw [flag?]
  split
  · next h =>
    cases b with
    | false => rcases h with rfl | rfl | rfl <;> simp [flagWords]
    | true => simpa [flagWords] using h
  · next h =>
    split
    · next hno =>
      cases b with
      | false => simpa [flagWords] using hno
      | true => rcases hno with rfl | rfl | rfl <;> simp [flagWords]
    · next hno =>
      cases b with
      | false => simpa [flagWords] using hno
      | true => simpa [flagWords] using h

/-- White space has no case. -/
theorem toLower_of_isBlank {c : Char} (h : Text.isBlank c = true) : c.toLower = c := by
  have hnot : ¬(c.val ≥ 'A'.val ∧ c.val ≤ 'Z'.val) := by
    rintro ⟨hlow, hhigh⟩
    have hlow : 65 ≤ c.toNat := hlow
    have hhigh : c.toNat ≤ 90 := hhigh
    simp only [Text.isBlank, Bool.or_eq_true, Bool.and_eq_true, decide_eq_true_eq,
      beq_iff_eq] at h
    omega
  exact dif_neg hnot

theorem ink_of_flagWords {b : Bool} {word : String} (h : word ∈ flagWords b) :
    word.toList ≠ [] ∧ ∀ c ∈ word.toList, Text.isBlank c = false := by
  cases b with
  | false =>
    simp only [flagWords, Bool.false_eq_true, if_false, List.mem_cons, List.not_mem_nil,
      or_false] at h
    rcases h with rfl | rfl | rfl <;> simp [Text.isBlank]
  | true =>
    simp only [flagWords, if_true, List.mem_cons, List.not_mem_nil, or_false] at h
    rcases h with rfl | rfl | rfl <;> simp [Text.isBlank]

/-- A flag is a text without white space, with white space around it. -/
theorem ink_of_flag {b : Bool} {core : List Char}
    (h : String.ofList (core.map Char.toLower) ∈ flagWords b) :
    core ≠ [] ∧ ∀ c ∈ core, Text.isBlank c = false := by
  obtain ⟨hne, hink⟩ := ink_of_flagWords h
  rw [String.toList_ofList] at hne hink
  refine ⟨by simpa using hne, fun c hc => Bool.eq_false_iff.2 fun hblank => ?_⟩
  have hlower := hink _ (List.mem_map_of_mem hc)
  rw [toLower_of_isBlank hblank, hblank] at hlower
  cases hlower

theorem isFlag_iff {value : String} {b : Bool} :
    IsFlag value b ↔ lowered (trimmed value) ∈ flagWords b := by
  have hlowered : lowered (trimmed value) =
      String.ofList ((Text.trim value.toList).map Char.toLower) := by
    rw [lowered, trimmed, String.toList_ofList]
  rw [hlowered]
  constructor
  · rintro ⟨core, hpadded, hword⟩
    obtain ⟨hne, hink⟩ := ink_of_flag hword
    rwa [trim_of_padded hpadded hne hink]
  · exact fun h => ⟨_, padded_trim value, h⟩

def flagComplaint (value : String) : String := "a boolean, got " ++ quoted (lowered (trimmed value))

theorem reads_flag : Reads readFlag IsFlag flagComplaint where
  ok_iff name value b := by
    rw [isFlag_iff, ← flag?_eq_some_iff, readFlag]
    cases flag? (lowered (trimmed value)) <;> simp
  complains name value h := by
    simp only [isFlag_iff, ← flag?_eq_some_iff] at h
    rw [readFlag]
    cases hb : flag? (lowered (trimmed value)) with
    | none => exact congrArg (Except.error ∘ Failure.invalidConfig) (must_be (by decide) name _)
    | some b => exact absurd ⟨b, hb⟩ h
  not_blank value b h := by
    obtain ⟨core, hpadded, hword⟩ := h
    obtain ⟨hne, hink⟩ := ink_of_flag hword
    exact not_blank_of_padded hpadded hne hink

/-! ## What a variable makes of a setting -/

section Setting

variable {α : Type} (vars : String → Option String) (name : String) (means : String → α → Prop)

/-- What a variable makes of a setting with a default. -/
inductive Sets (default : α) : α → Prop where
  | unset : vars name = none → Sets default default
  | blank {value : String} : vars name = some value → isBlankString value = true →
      Sets default default
  | value {value : String} {x : α} : vars name = some value → means value x → Sets default x

/-- A variable has a value, which is not blank and means nothing. -/
structure Faulty (value : String) : Prop where
  given : vars name = some value
  not_blank : isBlankString value = false
  means_nothing : ¬∃ x, means value x

end Setting

section Setting

variable {α : Type} {vars : String → Option String} {name : String}
  {read : String → String → Except Failure α} {means : String → α → Prop}
  {complaint : String → String} {default x : α}

theorem given_eq_some_iff {value : String} :
    given vars name = some value ↔ vars name = some value ∧ isBlankString value = false := by
  simp [given, Option.filter_eq_some_iff]

theorem given_eq_none_iff : given vars name = none ↔
    vars name = none ∨ ∃ value, vars name = some value ∧ isBlankString value = true := by
  rw [given]
  cases vars name <;> simp [Option.filter]

/-- A setting is what its variable makes of it. -/
theorem setting_eq_ok_iff (h : Reads read means complaint) :
    setting vars name read default = .ok x ↔ Sets vars name means default x := by
  rw [setting]
  cases hgiven : given vars name with
  | none =>
    constructor
    · intro hok
      cases hok
      rcases given_eq_none_iff.1 hgiven with hnone | ⟨value, hvalue, hblank⟩
      · exact .unset hnone
      · exact .blank hvalue hblank
    · rintro (_ | _ | ⟨hvalue, hmeans⟩)
      · rfl
      · rfl
      · rw [given_eq_some_iff.2 ⟨hvalue, h.not_blank _ _ hmeans⟩] at hgiven
        cases hgiven
  | some value =>
    obtain ⟨hvalue, hink⟩ := given_eq_some_iff.1 hgiven
    constructor
    · exact fun hok => .value hvalue ((h.ok_iff name value x).1 hok)
    · intro hsets
      cases hsets with
      | unset hnone => cases hvalue.symm.trans hnone
      | blank hother hblank =>
        cases hvalue.symm.trans hother
        cases hink.symm.trans hblank
      | value hother hmeans =>
        cases hvalue.symm.trans hother
        exact (h.ok_iff name value x).2 hmeans

/-- A setting fails exactly if its variable is at fault. -/
theorem setting_eq_error_iff (h : Reads read means complaint) {f : Failure} :
    setting vars name read default = .error f ↔ ∃ value, Faulty vars name means value ∧
      f = .invalidConfig (name ++ " must be " ++ complaint value) := by
  rw [setting]
  cases hgiven : given vars name with
  | none =>
    refine ⟨fun hok => (nomatch hok), ?_⟩
    rintro ⟨value, hfaulty, -⟩
    rw [given_eq_some_iff.2 ⟨hfaulty.given, hfaulty.not_blank⟩] at hgiven
    cases hgiven
  | some value =>
    obtain ⟨hvalue, hink⟩ := given_eq_some_iff.1 hgiven
    constructor
    · intro herror
      have hnothing : ¬∃ x, means value x := by
        rintro ⟨x, hx⟩
        cases ((h.ok_iff name value x).2 hx).symm.trans herror
      exact ⟨value, ⟨hvalue, hink, hnothing⟩,
        Except.error.inj (herror.symm.trans (h.complains name value hnothing))⟩
    · rintro ⟨other, hfaulty, rfl⟩
      cases hvalue.symm.trans hfaulty.given
      exact h.complains name value hfaulty.means_nothing

/-- A namespace is the value of its variable. -/
theorem given_eq_iff {text : Option String} :
    given vars name = text ↔ Sets vars name IsText none text := by
  constructor
  · rintro rfl
    cases hgiven : given vars name with
    | none =>
      rcases given_eq_none_iff.1 hgiven with hnone | ⟨value, hvalue, hblank⟩
      · exact .unset hnone
      · exact .blank hvalue hblank
    | some value =>
      obtain ⟨hvalue, hink⟩ := given_eq_some_iff.1 hgiven
      exact .value hvalue ⟨hink, rfl⟩
  · intro hsets
    cases hsets with
    | unset hnone => exact given_eq_none_iff.2 (.inl hnone)
    | blank hvalue hblank => exact given_eq_none_iff.2 (.inr ⟨_, hvalue, hblank⟩)
    | value hvalue htext =>
      obtain ⟨hink, rfl⟩ := htext
      exact given_eq_some_iff.2 ⟨hvalue, hink⟩

end Setting

/-! ## All settings -/

section All

variable (vars : String → Option String)

/-- What the variables make of the settings. -/
structure Stands (s : Settings) : Prop where
  watchNamespace : Sets vars "WATCH_NAMESPACE" IsText none s.watchNamespace
  configNamespace : Sets vars "NODE_CONFIG_NAMESPACE" IsText none s.configNamespace
  attachNetworks : Sets vars "ENABLE_NAD" IsFlag true s.attachNetworks
  concurrency : Sets vars "NODE_DEPLOYER_CONCURRENCY" (IsNumber 0xffff) 4 s.concurrency
  positive : s.concurrency ≠ 0
  sessionTimeout : Sets vars "DEVICE_SESSION_TIMEOUT_SECS" IsSeconds (.ofSeconds 5) s.sessionTimeout
  sshPort : Sets vars "DEVICE_SSH_PORT" (IsNumber 0xffff) 22 s.sshPort

/-- The first variable at fault, and what it must be. -/
inductive Fault : String → String → Prop where
  | attachNetworks {value : String} :
      Faulty vars "ENABLE_NAD" IsFlag value → Fault "ENABLE_NAD" (flagComplaint value)
  | concurrency {value : String} {b : Bool} :
      Sets vars "ENABLE_NAD" IsFlag true b →
      Faulty vars "NODE_DEPLOYER_CONCURRENCY" (IsNumber 0xffff) value →
      Fault "NODE_DEPLOYER_CONCURRENCY" (numberComplaint value)
  | sessionTimeout {value : String} {b : Bool} {n : Nat} :
      Sets vars "ENABLE_NAD" IsFlag true b →
      Sets vars "NODE_DEPLOYER_CONCURRENCY" (IsNumber 0xffff) 4 n →
      Faulty vars "DEVICE_SESSION_TIMEOUT_SECS" IsSeconds value →
      Fault "DEVICE_SESSION_TIMEOUT_SECS" (numberComplaint value)
  | sshPort {value : String} {b : Bool} {n : Nat} {d : Duration} :
      Sets vars "ENABLE_NAD" IsFlag true b →
      Sets vars "NODE_DEPLOYER_CONCURRENCY" (IsNumber 0xffff) 4 n →
      Sets vars "DEVICE_SESSION_TIMEOUT_SECS" IsSeconds (.ofSeconds 5) d →
      Faulty vars "DEVICE_SSH_PORT" (IsNumber 0xffff) value →
      Fault "DEVICE_SSH_PORT" (numberComplaint value)
  | zero {b : Bool} {d : Duration} {port : Nat} :
      Sets vars "ENABLE_NAD" IsFlag true b →
      Sets vars "NODE_DEPLOYER_CONCURRENCY" (IsNumber 0xffff) 4 0 →
      Sets vars "DEVICE_SESSION_TIMEOUT_SECS" IsSeconds (.ofSeconds 5) d →
      Sets vars "DEVICE_SSH_PORT" (IsNumber 0xffff) 22 port →
      Fault "NODE_DEPLOYER_CONCURRENCY" "at least 1"

end All

def names : List String :=
  ["WATCH_NAMESPACE", "NODE_CONFIG_NAMESPACE", "ENABLE_NAD", "NODE_DEPLOYER_CONCURRENCY",
    "DEVICE_SESSION_TIMEOUT_SECS", "DEVICE_SSH_PORT"]

variable {vars : String → Option String}

theorem ofVariables_eq_ok_iff {s : Settings} : ofVariables vars = .ok s ↔ Stands vars s := by
  simp only [ofVariables, bind_eq_ok_iff, setting_eq_ok_iff reads_flag,
    setting_eq_ok_iff (reads_number _), setting_eq_ok_iff reads_seconds]
  constructor
  · rintro ⟨b, hb, n, hn, d, hd, port, hport, h⟩
    split at h
    · cases h
    · next hpositive =>
      cases h
      exact ⟨given_eq_iff.1 rfl, given_eq_iff.1 rfl, hb, hn, hpositive, hd, hport⟩
  · intro h
    refine ⟨_, h.attachNetworks, _, h.concurrency, _, h.sessionTimeout, _, h.sshPort, ?_⟩
    rw [if_neg h.positive, given_eq_iff.2 h.watchNamespace, given_eq_iff.2 h.configNamespace]
    rfl

theorem ofVariables_eq_error_iff {f : Failure} : ofVariables vars = .error f ↔
    ∃ name what, Fault vars name what ∧ f = .invalidConfig (name ++ " must be " ++ what) := by
  simp only [ofVariables, bind_eq_error_iff, setting_eq_ok_iff reads_flag,
    setting_eq_ok_iff (reads_number _), setting_eq_ok_iff reads_seconds,
    setting_eq_error_iff reads_flag, setting_eq_error_iff (reads_number _),
    setting_eq_error_iff reads_seconds]
  constructor
  · rintro (⟨value, hfaulty, hf⟩ | ⟨b, hb, ⟨value, hfaulty, hf⟩ | ⟨n, hn,
      ⟨value, hfaulty, hf⟩ | ⟨d, hd, ⟨value, hfaulty, hf⟩ | ⟨port, hport, h⟩⟩⟩⟩)
    · exact ⟨_, _, .attachNetworks hfaulty, hf⟩
    · exact ⟨_, _, .concurrency hb hfaulty, hf⟩
    · exact ⟨_, _, .sessionTimeout hb hn hfaulty, hf⟩
    · exact ⟨_, _, .sshPort hb hn hd hfaulty, hf⟩
    · split at h
      · next hzero =>
        subst hzero
        cases h
        exact ⟨_, _, .zero hb hn hd hport, rfl⟩
      · cases h
  · rintro ⟨name, what, hfault, hf⟩
    cases hfault with
    | attachNetworks hfaulty => exact .inl ⟨_, hfaulty, hf⟩
    | concurrency hb hfaulty => exact .inr ⟨_, hb, .inl ⟨_, hfaulty, hf⟩⟩
    | sessionTimeout hb hn hfaulty => exact .inr ⟨_, hb, .inr ⟨_, hn, .inl ⟨_, hfaulty, hf⟩⟩⟩
    | sshPort hb hn hd hfaulty =>
      exact .inr ⟨_, hb, .inr ⟨_, hn, .inr ⟨_, hd, .inl ⟨_, hfaulty, hf⟩⟩⟩⟩
    | zero hb hn hd hport =>
      refine .inr ⟨_, hb, .inr ⟨_, hn, .inr ⟨_, hd, .inr ⟨_, hport, ?_⟩⟩⟩⟩
      rw [if_pos rfl, hf]
      rfl

theorem ofVariables_congr {others : String → Option String}
    (h : ∀ name ∈ names, others name = vars name) : ofVariables others = ofVariables vars := by
  simp only [names, List.forall_mem_cons] at h
  obtain ⟨hwatch, hconfig, hflag, hconcurrency, htimeout, hport, -⟩ := h
  simp only [ofVariables, setting, given, hwatch, hconfig, hflag, hconcurrency, htimeout, hport]

/-- **The settings are what the variables make of them, and there are none exactly if a variable is
at fault.** Other variables do not matter. -/
theorem settings_of_variables (vars : String → Option String) :
    (∀ s, ofVariables vars = .ok s ↔ Stands vars s) ∧
    ((∃ s, ofVariables vars = .ok s) ↔
      (∃ b, Sets vars "ENABLE_NAD" IsFlag true b) ∧
      (∃ n, Sets vars "NODE_DEPLOYER_CONCURRENCY" (IsNumber 0xffff) 4 n ∧ n ≠ 0) ∧
      (∃ d, Sets vars "DEVICE_SESSION_TIMEOUT_SECS" IsSeconds (.ofSeconds 5) d) ∧
      ∃ port, Sets vars "DEVICE_SSH_PORT" (IsNumber 0xffff) 22 port) ∧
    (∀ f, ofVariables vars = .error f ↔
      ∃ name what, Fault vars name what ∧ f = .invalidConfig (name ++ " must be " ++ what)) ∧
    ∀ others : String → Option String, (∀ name ∈ names, others name = vars name) →
      ofVariables others = ofVariables vars := by
  refine ⟨fun s => ofVariables_eq_ok_iff, ?_, fun f => ofVariables_eq_error_iff,
    fun others => ofVariables_congr⟩
  simp only [ofVariables_eq_ok_iff]
  constructor
  · rintro ⟨s, h⟩
    exact ⟨⟨_, h.attachNetworks⟩, ⟨_, h.concurrency, h.positive⟩, ⟨_, h.sessionTimeout⟩,
      ⟨_, h.sshPort⟩⟩
  · rintro ⟨⟨b, hb⟩, ⟨n, hn, hpositive⟩, ⟨d, hd⟩, port, hport⟩
    exact ⟨⟨_, _, b, n, d, port⟩, given_eq_iff.1 rfl, given_eq_iff.1 rfl, hb, hn, hpositive, hd,
      hport⟩

def sampleVariables (name : String) : Option String :=
  if name = "ENABLE_NAD" then some " No\n"
  else if name = "NODE_DEPLOYER_CONCURRENCY" then some "\t+08 "
  else if name = "DEVICE_SSH_PORT" then some "  "
  else none

/-- The settings of the sample, which another variable does not change. -/
theorem settings_of_variables_sample :
    ofVariables sampleVariables = .ok { attachNetworks := false, concurrency := 8 } ∧
    Stands sampleVariables { attachNetworks := false, concurrency := 8 } ∧
    ofVariables (fun name => if name = "HOME" then some "/root" else sampleVariables name) =
      .ok { attachNetworks := false, concurrency := 8 } := by
  have hsettings : ofVariables sampleVariables =
      .ok { attachNetworks := false, concurrency := 8 } := by rfl
  obtain ⟨hstands, -, -, hothers⟩ := settings_of_variables sampleVariables
  have hhome : "HOME" ∉ names := by decide
  refine ⟨hsettings, (hstands _).1 hsettings, (hothers _ fun name hname => ?_).trans hsettings⟩
  refine if_neg ?_
  rintro rfl
  exact hhome hname

end Settings

end NodeDeploy
