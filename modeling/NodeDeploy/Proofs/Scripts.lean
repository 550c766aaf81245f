import NodeDeploy.Proofs.Parts

/-! # Runs of scripts

The steps of a script only group its commands: what a run sends is the list of commands, one after
the other, and the first that fails ends it.

* `runScript_eq`: a run of a script is a run of its commands.
* `Connector.within_runScript`: where sessions work on a part of a state, so does a run, and
  `link_runScript`: in a world, a run works on the device alone.
* `Bench.run_script`: how a run on a bench ends, which depends on what the bench is told to refuse
  and not on what has happened there.
-/

namespace NodeDeploy

namespace Connector

variable {σ : Type} {c : Connector σ} {t : SessionTarget}

def sendEach (c : Connector σ) (t : SessionTarget) :
    List (SendMode × String) → Action σ DeviceError Unit
  | [] => pure ()
  | (mode, command) :: rest => do
    let _ ← c.send t command mode
    c.sendEach t rest

theorem sendEach_append (l r : List (SendMode × String)) :
    c.sendEach t (l ++ r) = (do c.sendEach t l; c.sendEach t r) := by
  induction l with
  | nil => rw [sendEach, pure_bind, List.nil_append]
  | cons x l ih =>
    rw [List.cons_append, sendEach, sendEach, ih, bind_assoc]

theorem sendAll_bind {α : Type} (mode : SendMode) (l : List String)
    (a : Action σ DeviceError α) :
    (do let _ ← c.sendAll t mode l; a) =
      (do c.sendEach t (l.map fun command => (mode, command)); a) := by
  induction l with
  | nil => rw [sendAll, pure_bind, List.map_nil, sendEach, pure_bind]
  | cons command l ih =>
    rw [sendAll, List.map_cons, sendEach, bind_assoc, bind_assoc]
    simp only [bind_assoc, pure_bind, ih]

theorem sendSteps_eq (l : List ScriptStep) : c.sendSteps t l =
    c.sendEach t (l.flatMap fun step => step.commands.map fun command => (step.mode, command)) := by
  induction l with
  | nil => rfl
  | cons step l ih =>
    rw [sendSteps, sendAll_bind, ih, List.flatMap_cons, sendEach_append]

/-- **A run of a script is a run of its commands.** -/
theorem runScript_eq (c : Connector σ) (t : SessionTarget) (s : BootstrapScript) :
    c.runScript t s = (do
      c.openSession t
      followedBy (c.sendEach t s.commands) (c.close t)) := by
  rw [runScript, sendSteps_eq]
  rfl

end Connector

/-! ## Devices that are part of a state -/

namespace Connector

variable {σ τ : Type} {get : τ → σ} {set : σ → τ → τ} {c : Connector σ}

def within (get : τ → σ) (set : σ → τ → τ) (c : Connector σ) : Connector τ where
  openSession t := (c.openSession t).within get set
  send t command mode := (c.send t command mode).within get set
  close t := (c.close t).within get set

theorem within_sendEach (h : IsPart get set) (t : SessionTarget) (l : List (SendMode × String)) :
    (c.within get set).sendEach t l = (c.sendEach t l).within get set := by
  induction l with
  | nil => exact (h.within_pure ()).symm
  | cons y l ih =>
    obtain ⟨mode, command⟩ := y
    rw [sendEach, sendEach, h.within_bind, ih]
    rfl

theorem within_followedBy (h : IsPart get set) (a b : Action σ DeviceError Unit) :
    (followedBy a b).within get set = followedBy (a.within get set) (b.within get set) := by
  funext x
  rw [Action.run_within, followedBy, followedBy, Action.run_within]
  rcases a (get x) with ⟨_ | _, s⟩
  · simp only [Action.run_within, h.get_set, h.set_set]
  · simp only [Action.run_within, h.get_set, h.set_set]

/-- **A run of a script works on the part of the state alone.** -/
theorem within_runScript (h : IsPart get set) (c : Connector σ) (t : SessionTarget)
    (s : BootstrapScript) :
    (c.within get set).runScript t s = (c.runScript t s).within get set := by
  rw [runScript_eq, runScript_eq, h.within_bind, within_sendEach h]
  refine congrArg _ (funext fun _ => ?_)
  exact (within_followedBy h _ _).symm

end Connector

/-- **A run of a script in a world works on the device alone.** -/
theorem World.link_runScript {δ : Type} (c : Connector δ) (t : SessionTarget) (s : BootstrapScript)
    (w : World δ) : (link c).runScript t s w = onDevice (c.runScript t s) w :=
  congrFun (Connector.within_runScript isPart_device c t s) w

namespace Bench

/-! ## Runs on a bench -/

/-- How a bench answers commands: with the first one that it rejects. -/
def answer (b : Bench) (l : List (SendMode × String)) : Except DeviceError Unit :=
  match l.find? fun x => b.rejects x.2 with
  | some x => .error (.commandFailed x.2 "Error: mock failure")
  | none => .ok ()

/-- How a run of a script ends on a bench: a login that fails counts before a command, and a command
before the close. -/
def verdict (b : Bench) (s : BootstrapScript) : Except DeviceError Unit :=
  match b.refusing with
  | some user => .error (.authentication user)
  | none => do
    b.answer s.commands
    match b.breaking with
    | some address => .error (.channelClosed address)
    | none => .ok ()

def Alike (a b : Bench) : Prop :=
  a.rejecting = b.rejecting ∧ a.refusing = b.refusing ∧ a.breaking = b.breaking

theorem Alike.trans {a b d : Bench} (h : Alike a b) (g : Alike b d) : Alike a d :=
  ⟨h.1.trans g.1, h.2.1.trans g.2.1, h.2.2.trans g.2.2⟩

theorem Alike.answer_eq {a b : Bench} (h : Alike a b) (l : List (SendMode × String)) :
    a.answer l = b.answer l := by
  simp only [answer, rejects, h.1]

theorem Alike.verdict_eq {a b : Bench} (h : Alike a b) (s : BootstrapScript) :
    a.verdict s = b.verdict s := by
  rw [verdict, verdict, h.2.1, h.2.2, h.answer_eq]

theorem alike_login (t : SessionTarget) (b : Bench) : Alike (login t b).2 b := by
  rw [login]
  split <;> exact ⟨rfl, rfl, rfl⟩

theorem alike_receive (address command : String) (mode : SendMode) (b : Bench) :
    Alike (receive address command mode b).2 b := by
  rw [receive]
  split <;> exact ⟨rfl, rfl, rfl⟩

theorem alike_hangUp (b : Bench) : Alike (hangUp b).2 b := by
  rw [hangUp]
  split <;> exact ⟨rfl, rfl, rfl⟩

theorem run_sendEach (t : SessionTarget) (l : List (SendMode × String)) (b : Bench) :
    (connector.sendEach t l b).1 = b.answer l ∧ Alike (connector.sendEach t l b).2 b := by
  induction l generalizing b with
  | nil => exact ⟨rfl, rfl, rfl, rfl⟩
  | cons x l ih =>
    obtain ⟨mode, command⟩ := x
    have hsend : connector.send t command mode b = receive t.address command mode b := rfl
    have halike := alike_receive t.address command mode b
    rw [Connector.sendEach, Action.run_bind, hsend]
    rcases hb : b.rejects command with _ | _
    · have hreceive : receive t.address command mode b =
          (.ok "", (receive t.address command mode b).2) := by
        simp only [receive, hb, Bool.false_eq_true, if_false]
      rw [hreceive]
      obtain ⟨hend, hrest⟩ := ih (receive t.address command mode b).2
      refine ⟨hend.trans ?_, hrest.trans halike⟩
      rw [halike.answer_eq, answer, answer, List.find?_cons_of_neg (by simp [hb])]
    · have hreceive : receive t.address command mode b =
          (.error (.commandFailed command "Error: mock failure"),
            (receive t.address command mode b).2) := by
        simp only [receive, hb, if_true]
      rw [hreceive]
      refine ⟨?_, halike⟩
      rw [answer, List.find?_cons_of_pos (by simp [hb])]

/-- **How a run of a script ends on a bench**, and that the bench refuses the same afterwards. -/
theorem run_script (t : SessionTarget) (s : BootstrapScript) (b : Bench) :
    (connector.runScript t s b).1 = b.verdict s ∧ Alike (connector.runScript t s b).2 b := by
  have hopen : connector.openSession t b = login t b := rfl
  have halike := alike_login t b
  rw [Connector.runScript_eq, Action.run_bind, hopen]
  rcases hr : b.refusing with _ | user
  · have hlogin : login t b = (.ok (), (login t b).2) := by
      simp only [login, hr]
    rw [hlogin]
    obtain ⟨hsent, hrest⟩ := run_sendEach t s.commands (login t b).2
    simp only [Connector.followedBy, verdict, hr]
    rw [halike.answer_eq] at hsent
    rcases hs : connector.sendEach t s.commands (login t b).2 with ⟨_ | _, d⟩
    · rw [hs] at hsent hrest
      rw [← hsent]
      exact ⟨rfl, (alike_hangUp d).trans (hrest.trans halike)⟩
    · rw [hs] at hsent hrest
      have hd : Alike d b := hrest.trans halike
      rw [← hsent]
      refine ⟨?_, (alike_hangUp d).trans hd⟩
      show (hangUp d).1 = _
      rw [hangUp, hd.2.2]
      rcases b.breaking with _ | address <;> rfl
  · have hlogin : login t b = (.error (.authentication user), (login t b).2) := by
      simp only [login, hr]
    rw [hlogin]
    refine ⟨?_, halike⟩
    rw [verdict, hr]

theorem answer_eq_ok_iff {b : Bench} {l : List (SendMode × String)} :
    b.answer l = .ok () ↔ ∀ x ∈ l, b.rejects x.2 = false := by
  rw [answer]
  cases hf : l.find? fun x => b.rejects x.2 with
  | none =>
    have hnone := List.find?_eq_none.1 hf
    exact ⟨fun _ x hx => Bool.eq_false_iff.2 (hnone x hx), fun _ => rfl⟩
  | some x =>
    have hx := List.find?_some hf
    constructor
    · intro h
      cases h
    · intro h
      rw [h x (List.mem_of_find?_eq_some hf)] at hx
      cases hx

/-- A script is run to its end exactly if nothing is refused. -/
theorem verdict_eq_ok_iff {b : Bench} {s : BootstrapScript} : b.verdict s = .ok () ↔
    b.refusing = none ∧ (∀ x ∈ s.commands, b.rejects x.2 = false) ∧ b.breaking = none := by
  rw [verdict, ← answer_eq_ok_iff]
  rcases b.refusing with _ | user <;> rcases b.answer s.commands with _ | _ <;>
    rcases b.breaking with _ | address <;> simp [bind, Except.bind]

end Bench

end NodeDeploy
