import NodeDeploy.Device.Shell
import NodeDeploy.Proofs.Dialling
import NodeDeploy.Proofs.Variables

/-! # The silence after which a session is given up

A session is given up after a silence that is a multiple of the limit of its waits. Any limit of
whole seconds that fit in 64 bits is accepted as a setting, but of the long ones there is no such
multiple: with these the program breaks off in each pass that comes to a session.

* `Settings.TooLong`: the variable has a limit of which there is no such multiple, and
  `inactivityLimit?_eq_none_iff` says that it is the only way to get one.
* `Engine.Calls`: a pass comes to a session. `pass_of_not_calls`: any other pass has nothing to do
  with a device.
* `Engine.BreaksOff`: a pass comes to a session that cannot be opened without breaking off.
* `breaks_off_iff_too_long` is the result.
-/

namespace NodeDeploy

/-! ## The limits without a silence -/

namespace Settings

/-- The variable has a limit that is accepted, and twelve times of which do not fit in 64 bits: one
of more than 1537228672809129301 seconds. -/
def TooLong (vars : String → Option String) : Prop :=
  ∃ value n, vars "DEVICE_SESSION_TIMEOUT_SECS" = some value ∧
    IsNumber 0xffffffffffffffff value n ∧ 0x10000000000000000 ≤ 12 * n

theorem isNumber_unique {most : Nat} {value : String} {m n : Nat} (hm : IsNumber most value m)
    (hn : IsNumber most value n) : m = n :=
  Option.some.inj ((number?_eq_some_iff.2 hm).symm.trans (number?_eq_some_iff.2 hn))

theorem inactivityLimit?_of_seconds {d : Duration} {n : Nat} (h : d.nanos = n * 1000000000) :
    Shell.inactivityLimit? d = none ↔ 0x10000000000000000 ≤ 12 * n := by
  rw [Shell.inactivityLimit?, Duration.scale?_eq_none_iff, Shell.inactivityFactor, h]
  omega

/-- **There is no silence exactly if the variable has too long a limit.** -/
theorem inactivityLimit?_eq_none_iff {vars : String → Option String} {s : Settings}
    (h : Stands vars s) : Shell.inactivityLimit? s.sessionTimeout = none ↔ TooLong vars := by
  have htimeout := h.sessionTimeout
  generalize s.sessionTimeout = d at htimeout ⊢
  cases htimeout with
  | unset hnone =>
    rw [inactivityLimit?_of_seconds (n := 5) rfl]
    refine iff_of_false (by decide) ?_
    rintro ⟨value, n, hvalue, -⟩
    cases hnone.symm.trans hvalue
  | blank hvalue hblank =>
    rw [inactivityLimit?_of_seconds (n := 5) rfl]
    refine iff_of_false (by decide) ?_
    rintro ⟨other, n, hother, hn, -⟩
    cases hvalue.symm.trans hother
    cases hblank.symm.trans ((reads_number _).not_blank _ n hn)
  | value hvalue hseconds =>
    obtain ⟨n, hn, hnanos⟩ := hseconds
    rw [inactivityLimit?_of_seconds hnanos]
    constructor
    · exact fun hlong => ⟨_, n, hvalue, hn, hlong⟩
    · rintro ⟨other, m, hother, hm, hlong⟩
      cases hvalue.symm.trans hother
      rwa [isNumber_unique hn hm]

end Settings

namespace Shell

theorem openSession?_eq_none_iff {target : SessionTarget} {s : Shell} :
    s.openSession? target = none ↔ inactivityLimit? s.limit = none := by
  rw [openSession?, Option.map_eq_none_iff]

theorem openSession?_eq_some_iff {target : SessionTarget} {s : Shell} :
    s.openSession? target = some (openSession target s) ↔ inactivityLimit? s.limit ≠ none := by
  rw [openSession?]
  cases inactivityLimit? s.limit <;> simp

end Shell

/-! ## Passes that come to a session -/

namespace Engine

variable {σ : Type} {e : Engine} {s : Store σ} {key : ObjectKey} {x : σ}

/-- A pass comes to open a session with a target. -/
def Calls (e : Engine) (s : Store σ) (key : ObjectKey) (x : σ) (target : SessionTarget) : Prop :=
  ∃ i y r z, s.getIntent key x = (.ok (some i), y) ∧ i.metadata.isDeleted = false ∧
    e.errandFor s key i y = (.ok (some r), z) ∧ r.target = target

/-- A pass comes to open a session where the program breaks off. -/
def BreaksOff (e : Engine) (s : Store σ) (key : ObjectKey) (x : σ) (shell : Shell) : Prop :=
  ∃ target, e.Calls s key x target ∧ shell.openSession? target = none

theorem breaksOff_iff {shell : Shell} : e.BreaksOff s key x shell ↔
    Shell.inactivityLimit? shell.limit = none ∧ ∃ target, e.Calls s key x target := by
  simp only [BreaksOff, Shell.openSession?_eq_none_iff]
  exact ⟨fun ⟨target, hcalls, hnone⟩ => ⟨hnone, target, hcalls⟩,
    fun ⟨hnone, target, hcalls⟩ => ⟨target, hcalls, hnone⟩⟩

/-- **A pass that does not come to a session has nothing to do with a device.** -/
theorem pass_of_not_calls (h : ¬∃ target, e.Calls s key x target) (c c' : Connector σ)
    (now : Instant) : e.pass s c key now x = e.pass s c' key now x := by
  rw [pass, pass, Action.run_bind, Action.run_bind, Action.run_mapError]
  rcases hi : s.getIntent key x with ⟨_ | _ | i, y⟩
  · rfl
  · rfl
  cases hl : i.metadata.isDeleted with
  | true => simp only [Except.mapError, hl, if_true]
  | false =>
    have hno : ∀ r z, e.errandFor s key i y ≠ (.ok (some r), z) :=
      fun r z hr => h ⟨_, i, y, r, z, hi, hl, hr, rfl⟩
    simp only [Except.mapError, hl, Bool.false_eq_true, if_false]
    rw [Action.run_bind, Action.run_bind, Action.run_attempt, Action.run_attempt,
      deploy_of_no_errand hno c c']

/-- **A pass breaks off exactly if it comes to a session and the variable has too long a limit**,
one of more than 1537228672809129301 seconds, which is accepted all the same. With any other limit,
or none, twelve times the limit is a duration, and sessions open as they do. A pass that does not
come to a session has nothing to do with the device. -/
theorem breaks_off_iff_too_long {vars : String → Option String} {settings : Settings}
    (h : Settings.ofVariables vars = .ok settings) :
    ((∃ silence, Shell.inactivityLimit? settings.sessionTimeout = some silence ∧
      silence.nanos = 12 * settings.sessionTimeout.nanos) ↔ ¬Settings.TooLong vars) ∧
    ∀ shell : Shell, shell.limit = settings.sessionTimeout →
      (∀ target, (shell.openSession? target = none ↔ Settings.TooLong vars) ∧
        (shell.openSession? target = some (Shell.openSession target shell) ↔
          ¬Settings.TooLong vars)) ∧
      ∀ (τ : Type) (e : Engine) (s : Store τ) (key : ObjectKey) (x : τ),
        (e.BreaksOff s key x shell ↔
          Settings.TooLong vars ∧ ∃ target, e.Calls s key x target) ∧
        ((¬∃ target, e.Calls s key x target) → ∀ (link link' : Connector τ) (now : Instant),
          e.pass s link key now x = e.pass s link' key now x) := by
  have hlong := Settings.inactivityLimit?_eq_none_iff (Settings.ofVariables_eq_ok_iff.1 h)
  refine ⟨?_, fun shell hlimit => ⟨fun target => ⟨?_, ?_⟩, fun τ e s key x => ⟨?_, ?_⟩⟩⟩
  · rw [← hlong]
    constructor
    · rintro ⟨silence, hsilence, -⟩ hnone
      cases hsilence.symm.trans hnone
    · intro hsome
      obtain ⟨silence, hsilence⟩ := Option.ne_none_iff_exists'.1 hsome
      exact ⟨silence, hsilence, Duration.nanos_of_scale? hsilence⟩
  · rw [Shell.openSession?_eq_none_iff, hlimit, hlong]
  · rw [Shell.openSession?_eq_some_iff, hlimit, ne_eq, hlong]
  · rw [breaksOff_iff, hlimit, hlong]
  · exact fun hnone link link' now => pass_of_not_calls hnone link link' now

end Engine

namespace Sample

def limited (limit name : String) : Option String :=
  if name = "DEVICE_SESSION_TIMEOUT_SECS" then some limit else none

def idle (limit : Duration) : Shell where
  login := ⟨true, none, none⟩
  greeting := []
  replies := []
  limit := limit

theorem calls_device (d : Shell) :
    ∃ target, ({} : Engine).Calls World.store key ⟨memory "first", d⟩ target := by
  obtain ⟨r, z, herrand⟩ := exists_errandFor d
  exact ⟨_, intent, _, r, z, rfl, rfl, herrand, rfl⟩

end Sample

namespace Engine

/-- With the longest limit of which there is a silence, a pass comes to a session and does not break
off. -/
theorem breaks_off_iff_too_long_sample :
    Settings.ofVariables (Sample.limited "1537228672809129301") =
      .ok { sessionTimeout := .ofSeconds 1537228672809129301 } ∧
    (∃ target, ({} : Engine).Calls World.store Sample.key
      ⟨Sample.memory "first", Sample.idle (.ofSeconds 1537228672809129301)⟩ target) ∧
    ¬({} : Engine).BreaksOff World.store Sample.key
      ⟨Sample.memory "first", Sample.idle (.ofSeconds 1537228672809129301)⟩
      (Sample.idle (.ofSeconds 1537228672809129301)) := by
  have haccepted : Settings.ofVariables (Sample.limited "1537228672809129301") =
      .ok { sessionTimeout := .ofSeconds 1537228672809129301 } := by rfl
  obtain ⟨hsilence, hbreaks⟩ := breaks_off_iff_too_long haccepted
  have hnot : ¬Settings.TooLong (Sample.limited "1537228672809129301") :=
    hsilence.1 ⟨.ofSeconds 18446744073709551612, by rfl, by rfl⟩
  refine ⟨haccepted, Sample.calls_device _, fun hoff => hnot ?_⟩
  exact (((hbreaks (Sample.idle _) rfl).2 _ _ _ _ _).1.1 hoff).1

/-- **With the longest limit that is accepted, the program breaks off.** -/
theorem longest_limit_breaks_off :
    Settings.ofVariables (Sample.limited "18446744073709551615") =
      .ok { sessionTimeout := .ofSeconds 18446744073709551615 } ∧
    Shell.inactivityLimit? (.ofSeconds 18446744073709551615) = none ∧
    ({} : Engine).BreaksOff World.store Sample.key
      ⟨Sample.memory "first", Sample.idle (.ofSeconds 18446744073709551615)⟩
      (Sample.idle (.ofSeconds 18446744073709551615)) := by
  have hnone : Shell.inactivityLimit? (.ofSeconds 18446744073709551615) = none := by rfl
  exact ⟨by rfl, hnone, breaksOff_iff.2 ⟨hnone, Sample.calls_device _⟩⟩

end Engine

end NodeDeploy
