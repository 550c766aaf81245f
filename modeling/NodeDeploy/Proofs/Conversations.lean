import Mathlib.Control.Monad.Basic
import NodeDeploy.Device.Shell
import NodeDeploy.Proofs.Decoding

/-! # Conversations with a device

A session stays in step with a device that ends each of its answers in a prompt, and does not show
one before, and that echoes a command without its return at the end of an answer of its own. Each
wait then reads one answer, and nothing is left to be read when the next command is sent; so a
command that fails does no harm to those after it.

* `Shell.FirstAtEnd`: something holds of the text so far at the last chunk, and not before.
* `Shell.Dialogue` is a command with the answers of the device; `Shell.Turn` is a single command or
  a batch, of which the commands up to the first that fails are sent (`Shell.Turn.said`).
* `Shell.watched` is the connector to a device, with a note of what is unread before each command.
* `Shell.Speaks` says that an action takes place as dialogues do. `Shell.speaks_send` is the step,
  `Shell.speaks_sendAll` a batch, and `Shell.speaks_converse` a whole conversation.
* `Shell.in_step`: a session is opened and stays in step.
-/

namespace NodeDeploy

/-! ## Conversations over any connector -/

namespace Shell

/-- A command and what the device answers: to the bare command, and to its return. -/
structure Dialogue where
  command : String
  /-- The echo, which only the standard mode waits for. -/
  echo : List String := []
  output : List String
  deriving DecidableEq, Repr

inductive Turn where
  | single (mode : SendMode) (d : Dialogue)
  | batch (mode : SendMode) (l : List Dialogue)
  deriving DecidableEq, Repr

end Shell

namespace Connector

variable {σ : Type} (c : Connector σ) (target : SessionTarget)

/-- Sends a single command or a batch; the outputs, or a failure. -/
def perform : Shell.Turn → Action σ DeviceError (List String)
  | .single mode d => do
    let output ← c.send target d.command mode
    pure [output]
  | .batch mode l => c.sendAll target mode (l.map Shell.Dialogue.command)

/-- Goes on whatever comes of a turn. -/
def converse : List Shell.Turn → Action σ DeviceError (List (Except DeviceError (List String)))
  | [] => pure []
  | turn :: rest => do
    let result ← (c.perform target turn).attempt
    let results ← converse rest
    pure (result :: results)

def talk (turns : List Shell.Turn) :
    Action σ DeviceError (List (Except DeviceError (List String))) := do
  c.openSession target
  c.converse target turns

end Connector

namespace Shell

/-! ## Chunks -/

def messages (chunks : List String) : List ChannelMessage :=
  chunks.map fun chunk => .data (stringBytes chunk)

/-- Something holds of the text so far when the last chunk has arrived, and not before. -/
structure FirstAtEnd (done : String → Bool) (chunks : List String) : Prop where
  nonempty : chunks ≠ []
  done_iff : ∀ l, l <+: chunks → l ≠ [] → (done (String.join l) = true ↔ l = chunks)

/-- It is enough to look at the text after each chunk. -/
theorem firstAtEnd_iff {done : String → Bool} {chunks : List String} :
    FirstAtEnd done chunks ↔ chunks ≠ [] ∧ done (String.join chunks) = true ∧
      ∀ n < chunks.length, 0 < n → done (String.join (chunks.take n)) = false := by
  constructor
  · intro h
    refine ⟨h.nonempty, (h.done_iff chunks List.prefix_rfl h.nonempty).2 rfl, fun n hn hpos => ?_⟩
    have hne : chunks.take n ≠ [] := by
      intro hnil
      have hlength := congrArg List.length hnil
      rw [List.length_take, List.length_nil] at hlength
      omega
    refine Bool.eq_false_iff.2 fun hdone => ?_
    have hlength := congrArg List.length ((h.done_iff _ (List.take_prefix n chunks) hne).1 hdone)
    rw [List.length_take] at hlength
    omega
  · rintro ⟨hne, hlast, hbefore⟩
    refine ⟨hne, fun l hl hl₀ => ⟨fun hdone => ?_, fun h => h ▸ hlast⟩⟩
    refine Decidable.byContradiction fun hproper => ?_
    have hlength : l.length < chunks.length :=
      Nat.lt_of_le_of_ne hl.length_le fun heq => hproper (hl.eq_of_length heq)
    have hfalse := hbefore l.length hlength (List.length_pos_iff.2 hl₀)
    rw [← List.prefix_iff_eq_take.1 hl, hdone] at hfalse
    cases hfalse

instance (done : String → Bool) (chunks : List String) : Decidable (FirstAtEnd done chunks) :=
  decidable_of_iff _ firstAtEnd_iff.symm

variable {operation address : String} {limit : Duration}

/-- **A wait for what first holds at the last chunk** reads all of the chunks. -/
theorem collect_messages {done : List Char → Bool} {chunks : List String} {buffer : List Char}
    (hne : chunks ≠ []) (hdone : ∀ l, l <+: chunks → l ≠ [] →
      (done (buffer ++ (String.join l).toList) = true ↔ l = chunks)) :
    collect done operation address limit buffer (messages chunks) =
      (.ok (buffer ++ (String.join chunks).toList), [], false) := by
  induction chunks generalizing buffer with
  | nil => exact absurd rfl hne
  | cons chunk chunks ih =>
    have hbuffer : buffer ++ Text.ofUtf8 (stringBytes chunk) = buffer ++ chunk.toList := by
      rw [stringBytes, Text.ofUtf8_utf8]
    have hfirst := hdone [chunk] ⟨chunks, rfl⟩ (List.cons_ne_nil _ _)
    simp only [String.toList_join, List.flatMap_singleton] at hfirst
    simp only [messages, List.map_cons, collect, hbuffer]
    cases chunks with
    | nil =>
      rw [if_pos (hfirst.2 rfl)]
      simp
    | cons next chunks =>
      have hnot : ¬done (buffer ++ chunk.toList) = true := fun h => by simpa using hfirst.1 h
      rw [if_neg hnot]
      refine (ih (List.cons_ne_nil _ _) fun l hl hne => ?_).trans ?_
      · have h := hdone (chunk :: l) (List.prefix_cons_inj chunk |>.2 hl) (List.cons_ne_nil _ _)
        simpa [String.toList_join, List.append_assoc] using h
      · simp [String.toList_join, List.append_assoc]

/-- A wait reads what has arrived, if what it waits for first holds at the last chunk. -/
theorem readUntil_messages (operation address : String) {done : String → Bool}
    {chunks : List String} (h : FirstAtEnd done chunks) {s : Shell} (hended : s.ended = false)
    (hinbox : s.inbox = messages chunks) :
    readUntil operation address (fun cs => done (String.ofList cs)) s =
      (.ok (String.join chunks).toList, { s with inbox := [] }) := by
  have hdone : ∀ l, l <+: chunks → l ≠ [] →
      (done (String.ofList ([] ++ (String.join l).toList)) = true ↔ l = chunks) := by
    intro l hl hne
    rw [List.nil_append, String.ofList_toList]
    exact h.done_iff l hl hne
  rw [readUntil, hended, hinbox, collect_messages h.nonempty hdone]
  simp

/-! ## Dialogues -/

namespace Dialogue

def text (d : Dialogue) : String := String.join d.output

/-- The text of the answer, or the first line of it that is an error. -/
def outcome (d : Dialogue) : Except DeviceError String :=
  match errorLine? d.text with
  | some line => .error (.commandFailed d.command line)
  | none => .ok d.text

def fails (d : Dialogue) : Bool := (errorLine? d.text).isSome

def writes (d : Dialogue) : SendMode → List String
  | .standard => [d.command, "\n"]
  | .eager => [d.command ++ "\n"]

def replies (d : Dialogue) : SendMode → List (List ChannelMessage)
  | .standard => [messages d.echo, messages d.output]
  | .eager => [messages d.output]

/-- The echo of a bare command is complete with its last chunk, and the answer to the return ends in
a prompt with its last chunk, and not before. -/
structure InStep (platform : Platform) (mode : SendMode) (d : Dialogue) : Prop where
  echo : mode = .standard → FirstAtEnd (echoes · d.command) d.echo
  output : FirstAtEnd (endsWithPrompt platform.promptTerminators) d.output

instance (platform : Platform) (mode : SendMode) (d : Dialogue) :
    Decidable (d.InStep platform mode) :=
  decidable_of_iff ((mode = .standard → FirstAtEnd (echoes · d.command) d.echo) ∧
      FirstAtEnd (endsWithPrompt platform.promptTerminators) d.output)
    ⟨fun h => ⟨h.1, h.2⟩, fun h => ⟨h.echo, h.output⟩⟩

def upToFailure : List Dialogue → List Dialogue
  | [] => []
  | d :: rest => d :: if d.fails then [] else upToFailure rest

end Dialogue

/-- The dialogues that take place in a turn, each in its mode. -/
def Turn.said : Turn → List (SendMode × Dialogue)
  | .single mode d => [(mode, d)]
  | .batch mode l => (Dialogue.upToFailure l).map fun d => (mode, d)

def Turn.outcome : Turn → Except DeviceError (List String)
  | .single _ d => d.outcome.map fun output => [output]
  | .batch _ l => l.mapM Dialogue.outcome

def writesOf (said : List (SendMode × Dialogue)) : List String :=
  said.flatMap fun x => x.2.writes x.1

def repliesTo (said : List (SendMode × Dialogue)) : List (List ChannelMessage) :=
  said.flatMap fun x => x.2.replies x.1

/-- What takes place in a session: its setup and, unless that fails, the turns. -/
def held (setup : List Dialogue) (turns : List Turn) : List (SendMode × Dialogue) :=
  (Turn.batch .eager setup).said ++ if setup.any Dialogue.fails then [] else turns.flatMap Turn.said

/-! ## Watching a session -/

/-- A shell, and what was unread before each command. -/
structure Watched where
  shell : Shell
  unread : List (List ChannelMessage) := []

namespace Watched

def of {ε α : Type} (a : Action Shell ε α) : Action Watched ε α :=
  a.within Watched.shell fun s w => { w with shell := s }

theorem run_of {ε α : Type} {a : Action Shell ε α} {r : Except ε α} {s t : Shell}
    (h : a s = (r, t)) {unread : List (List ChannelMessage)} :
    of a ⟨s, unread⟩ = (r, ⟨t, unread⟩) := by
  rw [of, Action.run_within, h]

/-- Sends a command, with a note of what is unread before. -/
def send (target : SessionTarget) (command : String) (mode : SendMode) :
    Action Watched DeviceError String := do
  Action.update fun w => { w with unread := w.unread ++ [w.shell.inbox] }
  of (sendCommand target command mode)

def sendEach (target : SessionTarget) : List String → Action Watched DeviceError Unit
  | [] => pure ()
  | command :: rest => do
    let _ ← send target command .eager
    sendEach target rest

def openSession (target : SessionTarget) : Action Watched DeviceError Unit := do
  of (connect target)
  of start
  let _ ← of (readUntilPrompt target "login prompt")
  sendEach target target.platform.onOpen

end Watched

def watched : Connector Watched where
  openSession := Watched.openSession
  send := Watched.send
  close _ := Watched.of close

/-! The notes change nothing. -/

section Notes

variable {ε φ α β : Type}

/-- An action with notes does what another does without. -/
def Notes (a : Action Watched ε α) (b : Action Shell ε α) : Prop :=
  ∀ w, b w.shell = ((a w).1, (a w).2.shell)

namespace Notes

theorem pure (x : α) : Notes (pure x : Action Watched ε α) (pure x) := fun _ => rfl

theorem of (a : Action Shell ε α) : Notes (Watched.of a) a := fun _ => rfl

theorem bind {a : Action Watched ε α} {b : Action Shell ε α} {f : α → Action Watched ε β}
    {g : α → Action Shell ε β} (h : Notes a b) (hf : ∀ x, Notes (f x) (g x)) :
    Notes (a >>= f) (b >>= g) := by
  intro w
  rw [Action.run_bind, Action.run_bind, h w]
  rcases a w with ⟨_ | x, w'⟩
  · rfl
  · exact hf x w'

theorem attempt {a : Action Watched ε α} {b : Action Shell ε α} (h : Notes a b) :
    Notes (a.attempt : Action Watched φ (Except ε α)) b.attempt := by
  intro w
  rw [Action.run_attempt, Action.run_attempt, h w]

variable (target : SessionTarget)

theorem send (command : String) (mode : SendMode) :
    Notes (watched.send target command mode) (connector.send target command mode) := fun _ => rfl

theorem sendEach (l : List String) :
    Notes (Watched.sendEach target l) (Shell.sendEach target l) := by
  induction l with
  | nil => exact .pure ()
  | cons command l ih => exact .bind (send target command .eager) fun _ => ih

theorem openSession : Notes (watched.openSession target) (connector.openSession target) :=
  .bind (.of _) fun _ => .bind (.of _) fun _ => .bind (.of _) fun _ => sendEach target _

theorem sendAll (mode : SendMode) (l : List String) :
    Notes (watched.sendAll target mode l) (connector.sendAll target mode l) := by
  induction l with
  | nil => exact .pure []
  | cons command l ih =>
    exact .bind (send target command mode) fun _ => .bind ih fun _ => .pure _

theorem perform (turn : Turn) :
    Notes (watched.perform target turn) (connector.perform target turn) := by
  cases turn with
  | single mode d => exact .bind (send target d.command mode) fun _ => .pure _
  | batch mode l => exact sendAll target mode _

theorem converse (turns : List Turn) :
    Notes (watched.converse target turns) (connector.converse target turns) := by
  induction turns with
  | nil => exact .pure []
  | cons turn turns ih =>
    exact .bind (perform target turn).attempt fun _ => .bind ih fun _ => .pure _

/-- A conversation is the same without the notes. -/
theorem talk (turns : List Turn) :
    Notes (watched.talk target turns) (connector.talk target turns) :=
  .bind (openSession target) fun _ => converse target turns

end Notes

end Notes

/-! ## Staying in step -/

/-- A device at its prompt, with nothing unread, that is in step for some dialogues. -/
structure Ready (platform : Platform) (said : List (SendMode × Dialogue))
    (rest : List (List ChannelMessage)) (s : Shell) : Prop where
  ended : s.ended = false
  inbox : s.inbox = []
  replies : s.replies = repliesTo said ++ rest
  inStep : ∀ x ∈ said, x.2.InStep platform x.1

/-- A shell when some texts are written, with what is unread and the answers to come. -/
def written (s : Shell) (texts : List String) (unread : List ChannelMessage)
    (rest : List (List ChannelMessage)) : Shell :=
  { s with writes := s.writes ++ texts, inbox := unread, replies := rest }

/-- What dialogues leave: nothing unread, before any of them and in the end. -/
def Watched.after (said : List (SendMode × Dialogue)) (rest : List (List ChannelMessage))
    (w : Watched) : Watched where
  shell := w.shell.written (writesOf said) [] rest
  unread := w.unread ++ said.map fun _ => []

/-- An action takes place as some dialogues do. -/
def Speaks {ε α : Type} (platform : Platform) (said : List (SendMode × Dialogue))
    (a : Action Watched ε α) (r : Except ε α) : Prop :=
  ∀ w rest, Ready platform said rest w.shell → a w = (r, w.after said rest)

section Speaks

variable {ε φ α β : Type} {platform : Platform} {said more : List (SendMode × Dialogue)}

theorem Ready.first {rest : List (List ChannelMessage)} {s : Shell}
    (h : Ready platform (said ++ more) rest s) :
    Ready platform said (repliesTo more ++ rest) s where
  ended := h.ended
  inbox := h.inbox
  replies := by rw [h.replies, repliesTo, List.flatMap_append, List.append_assoc]; rfl
  inStep x hx := h.inStep x (List.mem_append_left _ hx)

theorem Ready.next {rest : List (List ChannelMessage)} {w : Watched}
    (h : Ready platform (said ++ more) rest w.shell) :
    Ready platform more rest (w.after said (repliesTo more ++ rest)).shell where
  ended := h.ended
  inbox := rfl
  replies := rfl
  inStep x hx := h.inStep x (List.mem_append_right _ hx)

theorem Watched.after_after (rest next : List (List ChannelMessage)) (w : Watched) :
    (w.after said rest).after more next = w.after (said ++ more) next := by
  simp [Watched.after, written, writesOf]

namespace Speaks

theorem pure (x : α) : Speaks platform [] (pure x : Action Watched ε α) (.ok x) := by
  intro w rest h
  have hreplies : w.shell.replies = rest := h.replies
  simp [Watched.after, written, writesOf, ← hreplies, ← h.inbox]

theorem bind_ok {a : Action Watched ε α} {f : α → Action Watched ε β} {x : α} {r : Except ε β}
    (ha : Speaks platform said a (.ok x)) (hf : Speaks platform more (f x) r) :
    Speaks platform (said ++ more) (a >>= f) r := by
  intro w rest h
  rw [Action.run_bind_ok (ha w _ h.first), hf _ rest h.next, Watched.after_after]

theorem bind_error {a : Action Watched ε α} {e : ε} (ha : Speaks platform said a (.error e))
    (f : α → Action Watched ε β) : Speaks platform said (a >>= f) (.error e) := by
  intro w rest h
  exact Action.run_bind_error (ha w rest h) f

theorem attempt {a : Action Watched ε α} {r : Except ε α} (ha : Speaks platform said a r) :
    Speaks platform said (a.attempt : Action Watched φ (Except ε α)) (.ok r) := by
  intro w rest h
  rw [Action.run_attempt, ha w rest h]

/-- A result is changed by what is done with it. -/
theorem map {a : Action Watched ε α} {r : Except ε α} (ha : Speaks platform said a r)
    (f : α → β) : Speaks platform said (a >>= fun x => Pure.pure (f x)) (r.map f) := by
  cases r with
  | error e => exact ha.bind_error _
  | ok x =>
    have h := ha.bind_ok (f := fun y => Pure.pure (f y)) (pure (f x))
    rwa [List.append_nil] at h

end Speaks

end Speaks

/-! ## Commands and batches -/

section Commands

variable (target : SessionTarget)

theorem readUntil_echo {command : String} {chunks : List String}
    (h : FirstAtEnd (echoes · command) chunks) {s : Shell} (hended : s.ended = false)
    (hinbox : s.inbox = messages chunks) :
    readUntil "command echo" target.address (fun cs => Prompt.echoes cs command.toList) s =
      (.ok (String.join chunks).toList, { s with inbox := [] }) := by
  simpa [echoes] using readUntil_messages "command echo" target.address h hended hinbox

theorem readUntilPrompt_messages (operation : String) {chunks : List String}
    (h : FirstAtEnd (endsWithPrompt target.platform.promptTerminators) chunks) {s : Shell}
    (hended : s.ended = false) (hinbox : s.inbox = messages chunks) :
    readUntilPrompt target operation s =
      (.ok (String.join chunks).toList, { s with inbox := [] }) := by
  simpa [readUntilPrompt, endsWithPrompt] using
    readUntil_messages operation target.address h hended hinbox

theorem write_answered {reply : List ChannelMessage} {rest : List (List ChannelMessage)} {s : Shell}
    (hinbox : s.inbox = []) (hreplies : s.replies = reply :: rest) (text : String) :
    write text s = (.ok (), s.written [text] reply rest) := by
  rw [write, hinbox, hreplies]
  rfl

/-- A command is written, and its own answer is what is left to be read. -/
theorem writeCommand_inStep {d : Dialogue} {mode : SendMode} {rest : List (List ChannelMessage)}
    {s : Shell} (h : Ready target.platform [(mode, d)] rest s) :
    writeCommand target d.command mode s =
      (.ok (), s.written (d.writes mode) (messages d.output) rest) := by
  have hstep : d.InStep target.platform mode := h.inStep _ (List.mem_singleton_self _)
  cases mode with
  | standard =>
    have hreplies : s.replies = messages d.echo :: messages d.output :: rest := h.replies
    have hwritten := write_answered h.inbox hreplies d.command
    have hecho := readUntil_echo target (hstep.echo rfl)
      (s := s.written [d.command] (messages d.echo) (messages d.output :: rest)) h.ended rfl
    rw [writeCommand, Action.run_bind_ok hwritten, Action.run_bind_ok hecho,
      write_answered rfl rfl]
    simp [written, Dialogue.writes]
  | eager =>
    have hreplies : s.replies = messages d.output :: rest := h.replies
    exact write_answered h.inbox hreplies _

/-- **A command is answered with its own answer.** -/
theorem speaks_send (mode : SendMode) (d : Dialogue) :
    Speaks target.platform [(mode, d)] (watched.send target d.command mode) d.outcome := by
  intro w rest h
  have hstep : d.InStep target.platform mode := h.inStep _ (List.mem_singleton_self _)
  have hread := readUntilPrompt_messages target d.command hstep.output
    (s := w.shell.written (d.writes mode) (messages d.output) rest) h.ended rfl
  have hsend : sendCommand target d.command mode w.shell =
      (d.outcome, w.shell.written (d.writes mode) [] rest) := by
    rw [sendCommand, Action.run_bind_ok (writeCommand_inStep target h), Action.run_bind_ok hread,
      Dialogue.outcome, errorLine?, Dialogue.text, String.ofList_toList]
    cases Prompt.errorLine? (String.join d.output).toList <;> rfl
  have hwatched : watched.send target d.command mode w =
      ((sendCommand target d.command mode w.shell).1,
        ⟨(sendCommand target d.command mode w.shell).2, w.unread ++ [w.shell.inbox]⟩) := rfl
  rw [hwatched, hsend, Watched.after, writesOf, List.flatMap_singleton, List.map_singleton, h.inbox]

theorem Dialogue.outcome_of_fails {d : Dialogue} (h : d.fails = true) :
    ∃ e, d.outcome = .error e := by
  obtain ⟨line, hline⟩ := Option.isSome_iff_exists.1 h
  exact ⟨_, by rw [outcome, hline]⟩

theorem Dialogue.outcome_of_not_fails {d : Dialogue} (h : d.fails = false) :
    d.outcome = .ok d.text := by
  rw [outcome, Option.isNone_iff_eq_none.1 (Option.isSome_eq_false_iff.1 h)]

theorem Dialogue.mapM_outcome_of_fails {l : List Dialogue} (h : l.any fails = true) :
    ∃ e, l.mapM outcome = .error e := by
  induction l with
  | nil => cases h
  | cons d l ih =>
    rw [List.mapM_cons]
    cases hd : d.fails with
    | true =>
      obtain ⟨e, he⟩ := outcome_of_fails hd
      exact ⟨e, by rw [he]; rfl⟩
    | false =>
      rw [List.any_cons, hd, Bool.false_or] at h
      obtain ⟨e, he⟩ := ih h
      exact ⟨e, by rw [outcome_of_not_fails hd, he]; rfl⟩

theorem Dialogue.mapM_outcome_of_not_fails {l : List Dialogue} (h : l.any fails = false) :
    l.mapM outcome = .ok (l.map text) := by
  induction l with
  | nil => rfl
  | cons d l ih =>
    obtain ⟨hd, hl⟩ := Bool.or_eq_false_iff.1 h
    rw [List.mapM_cons, outcome_of_not_fails hd, ih hl]
    rfl

/-- **A batch stops at the first command that fails**, and each command has its own answer. -/
theorem speaks_sendAll (mode : SendMode) (l : List Dialogue) :
    Speaks target.platform ((Dialogue.upToFailure l).map fun d => (mode, d))
      (watched.sendAll target mode (l.map Dialogue.command)) (l.mapM Dialogue.outcome) := by
  induction l with
  | nil => exact .pure []
  | cons d l ih =>
    have hsend := speaks_send target mode d
    rw [List.mapM_cons, Dialogue.upToFailure, List.map_cons, List.map_cons, Connector.sendAll]
    cases hd : d.fails with
    | true =>
      obtain ⟨e, he⟩ := Dialogue.outcome_of_fails hd
      rw [he] at hsend ⊢
      exact hsend.bind_error _
    | false =>
      rw [Dialogue.outcome_of_not_fails hd] at hsend ⊢
      exact hsend.bind_ok (ih.map (d.text :: ·))

/-- The commands of a setup are a batch whose outputs nobody looks at. -/
theorem speaks_sendEach (l : List Dialogue) :
    Speaks target.platform (Turn.batch .eager l).said
      (Watched.sendEach target (l.map Dialogue.command))
      ((l.mapM Dialogue.outcome).map fun _ => ()) := by
  induction l with
  | nil => exact .pure ()
  | cons d l ih =>
    have hsend := speaks_send target .eager d
    rw [List.mapM_cons, Turn.said, Dialogue.upToFailure, List.map_cons, List.map_cons,
      Watched.sendEach]
    cases hd : d.fails with
    | true =>
      obtain ⟨e, he⟩ := Dialogue.outcome_of_fails hd
      rw [he] at hsend ⊢
      exact hsend.bind_error _
    | false =>
      rw [Dialogue.outcome_of_not_fails hd] at hsend ⊢
      have hresult : (Except.ok d.text >>= fun text => l.mapM Dialogue.outcome >>= fun texts =>
          Pure.pure (text :: texts)).map (fun _ => ()) =
          (l.mapM Dialogue.outcome).map fun _ => () := by
        cases l.mapM Dialogue.outcome <;> rfl
      rw [hresult]
      exact hsend.bind_ok ih

/-! ## Turns and conversations -/

theorem speaks_perform (turn : Turn) :
    Speaks target.platform turn.said (watched.perform target turn) turn.outcome := by
  cases turn with
  | single mode d => exact (speaks_send target mode d).map fun output => [output]
  | batch mode l => exact speaks_sendAll target mode l

/-- **A conversation**: each turn has its own outcome, whatever came of those before. -/
theorem speaks_converse (turns : List Turn) :
    Speaks target.platform (turns.flatMap Turn.said) (watched.converse target turns)
      (.ok (turns.map Turn.outcome)) := by
  induction turns with
  | nil => exact .pure []
  | cons turn turns ih =>
    exact (speaks_perform target turn).attempt.bind_ok (ih.map (turn.outcome :: ·))

end Commands

/-! ## Sessions -/

/-- A device that takes a login, greets with its prompt, and is in step for all that takes place in
a session. -/
structure Welcomes (target : SessionTarget) (greeting : List String) (setup : List Dialogue)
    (turns : List Turn) (rest : List (List ChannelMessage)) (s : Shell) : Prop where
  listens : s.login.listens = true
  accepted : accepts s.login target.credentials = true
  ended : s.ended = false
  greeted : s.greeting = messages greeting
  prompted : FirstAtEnd (endsWithPrompt target.platform.promptTerminators) greeting
  commands : setup.map Dialogue.command = target.platform.onOpen
  replies : s.replies = repliesTo (held setup turns) ++ rest
  inStep : ∀ x ∈ held setup turns, x.2.InStep target.platform x.1

/-- A shell when its session has begun, with what is unread. -/
def begun (target : SessionTarget) (unread : List ChannelMessage) (s : Shell) : Shell :=
  { s with logins := s.logins ++ [target.credentials], terminal := some ⟨"xterm", 511, 24⟩
           inbox := unread }

/-- A session that is opened goes on with the commands of its setup, at the prompt. -/
theorem openSession_welcomed {target : SessionTarget} {greeting : List String}
    {setup : List Dialogue} {turns : List Turn} {rest : List (List ChannelMessage)} {s : Shell}
    (h : s.Welcomes target greeting setup turns rest) :
    watched.openSession target ⟨s, []⟩ =
      Watched.sendEach target target.platform.onOpen ⟨s.begun target [], []⟩ := by
  have hconnect : connect target s =
      (.ok (), { s with logins := s.logins ++ [target.credentials] }) := by
    simp [connect, h.listens, h.accepted]
  have hstart : start { s with logins := s.logins ++ [target.credentials] } =
    (.ok (), s.begun target s.greeting) := rfl
  have hread := readUntilPrompt_messages target "login prompt" h.prompted
    (s := s.begun target s.greeting) h.ended h.greeted
  have hopen : watched.openSession target = Watched.openSession target := rfl
  rw [hopen, Watched.openSession, Action.run_bind_ok (Watched.run_of hconnect),
    Action.run_bind_ok (Watched.run_of hstart), Action.run_bind_ok (Watched.run_of hread)]
  rfl

/-- The setup of a session and the conversation after it. -/
theorem speaks_session (target : SessionTarget) (setup : List Dialogue) (turns : List Turn) :
    Speaks target.platform (held setup turns)
      (Watched.sendEach target (setup.map Dialogue.command) >>= fun _ =>
        watched.converse target turns)
      ((setup.mapM Dialogue.outcome).map fun _ => turns.map Turn.outcome) := by
  have hsetup := speaks_sendEach target setup
  rw [held]
  cases hfails : setup.any Dialogue.fails with
  | true =>
    obtain ⟨e, he⟩ := Dialogue.mapM_outcome_of_fails hfails
    rw [he] at hsetup ⊢
    rw [if_pos rfl, List.append_nil]
    exact hsetup.bind_error _
  | false =>
    rw [Dialogue.mapM_outcome_of_not_fails hfails] at hsetup ⊢
    exact hsetup.bind_ok (speaks_converse target turns)

/-- **A session stays in step with its device.** It is opened unless a command of the setup fails.
Each command has the text of its own answer, or fails with the first line of it that is an error; a
batch stops at the first that fails, and what comes after it goes on as before. Before each command,
and in the end, nothing is unread. -/
theorem in_step (target : SessionTarget) {greeting : List String} {setup : List Dialogue}
    {turns : List Turn} {rest : List (List ChannelMessage)} {s : Shell}
    (h : s.Welcomes target greeting setup turns rest) :
    (connector.openSession target s).1 = ((setup.mapM Dialogue.outcome).map fun _ => ()) ∧
    connector.talk target turns s =
      ((setup.mapM Dialogue.outcome).map fun _ => turns.map Turn.outcome,
        (s.begun target []).written (writesOf (held setup turns)) [] rest) ∧
    watched.talk target turns ⟨s, []⟩ =
      ((setup.mapM Dialogue.outcome).map fun _ => turns.map Turn.outcome,
        ⟨(s.begun target []).written (writesOf (held setup turns)) [] rest,
          (held setup turns).map fun _ => []⟩) := by
  have hready : Ready target.platform (held setup turns) rest (s.begun target []) :=
    ⟨h.ended, rfl, h.replies, h.inStep⟩
  have hopen := openSession_welcomed h
  rw [← h.commands] at hopen
  have htalk : watched.talk target turns ⟨s, []⟩ =
      ((setup.mapM Dialogue.outcome).map fun _ => turns.map Turn.outcome,
        ⟨(s.begun target []).written (writesOf (held setup turns)) [] rest,
          (held setup turns).map fun _ => []⟩) := by
    have hsession := speaks_session target setup turns ⟨s.begun target [], []⟩ rest hready
    rw [Action.run_bind, ← hopen, ← Action.run_bind] at hsession
    exact hsession
  have hopened := speaks_sendEach target setup ⟨s.begun target [], []⟩ _ hready.first
  rw [← hopen] at hopened
  refine ⟨?_, ?_, htalk⟩
  · have hnotes := Notes.openSession target ⟨s, []⟩
    rw [hnotes, hopened]
  · have hnotes := Notes.talk target turns ⟨s, []⟩
    rw [hnotes, htalk]

namespace Sample

def target : SessionTarget := ⟨"10.0.0.1", 22, ⟨"admin", "pass"⟩, .srLinux⟩

def greeting : List String := ["Welcome\r\n", "A:srl# "]

def setup : List Dialogue :=
  [{ command := "environment cli-engine type basic", output := ["A:srl# "] },
    { command := "environment complete-on-space false", output := ["A:srl", "# "] }]

/-- The second command of a batch fails, so that the third is not sent. -/
def turns : List Turn :=
  [.batch .standard
    [{ command := "enter candidate", echo := ["enter", " candidate"], output := ["\r\nA:srl# "] },
      { command := "commit now", echo := ["commit now"], output := ["Error: no\r\n", "A:srl# "] },
      { command := "quit", output := [] }],
    .single .eager { command := "commit save", output := ["saved\r\n", "A:srl# "] }]

def device : Shell where
  login := ⟨true, some "admin", some "pass"⟩
  greeting := messages greeting
  replies := repliesTo (held setup turns)
  limit := ⟨5000000000, by decide⟩

theorem welcomes : device.Welcomes target greeting setup turns [] where
  listens := rfl
  accepted := by decide
  ended := rfl
  greeted := rfl
  prompted := by decide +kernel
  commands := rfl
  replies := (List.append_nil _).symm
  inStep := by decide +kernel

end Sample

/-- A command of a batch fails, the one after it is not sent, and the next turn has its own
answer. -/
theorem in_step_sample :
    (connector.talk Sample.target Sample.turns Sample.device).1 =
      .ok [.error (.commandFailed "commit now" "Error: no"), .ok ["saved\r\nA:srl# "]] ∧
    (connector.talk Sample.target Sample.turns Sample.device).2.writes =
      ["environment cli-engine type basic\n", "environment complete-on-space false\n",
        "enter candidate", "\n", "commit now", "\n", "commit save\n"] ∧
    (watched.talk Sample.target Sample.turns ⟨Sample.device, []⟩).2.unread =
      List.replicate 5 [] := by
  obtain ⟨-, htalk, hwatched⟩ := in_step Sample.target Sample.welcomes
  rw [htalk, hwatched]
  decide +kernel

end Shell

end NodeDeploy
