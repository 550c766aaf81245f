import NodeDeploy.Device.Prompt
import NodeDeploy.Device.Session
import NodeDeploy.Text.Utf8

/-! # Interactive shells

A session over a secure shell: the device sends messages, the session writes texts, and each wait
reads messages into a fresh buffer until what it waits for has shown. What a wait does not read
stays for the next one.

The device at the other end is a script: what it sends at the start of the shell, and what it sends
in answer to each write. A wait that finds no more messages ends in a timeout.

* `Shell.readUntil` is one wait;
* `Shell.sendCommand` writes a command in one of the two modes and takes its output;
* `Shell.openSession?` opens a session, unless the limit of its waits is too long for that;
* `Shell.connector` is the connector to one scripted device.
-/

namespace NodeDeploy

inductive ChannelMessage where
  /-- Output or error output, as bytes. -/
  | data (bytes : List UInt8)
  /-- The end of the output. -/
  | eof
  /-- The end of the channel. -/
  | close
  /-- Anything else, which no wait regards. -/
  | other
  deriving DecidableEq, Repr

structure Login where
  listens : Bool
  user : Option String
  password : Option String
  deriving DecidableEq, Repr

structure Terminal where
  name : String
  columns : Nat
  rows : Nat
  deriving DecidableEq, Repr

/-- A scripted device and the session with it. -/
structure Shell where
  login : Login
  greeting : List ChannelMessage
  /-- The answers to the writes still to come. -/
  replies : List (List ChannelMessage)
  /-- Messages that no wait has read. -/
  inbox : List ChannelMessage := []
  /-- Whether the channel has come to its end. -/
  ended : Bool := false
  /-- Whether the session closed its side. -/
  closed : Bool := false
  logins : List Credentials := []
  terminal : Option Terminal := none
  writes : List String := []
  /-- How long a wait lasts. -/
  limit : Duration

namespace Shell

/-- How often the limit of a wait must pass in silence before a session is given up. -/
def inactivityFactor : Nat := 12

/-- The silence after which a session is given up, if there is such a duration. -/
def inactivityLimit? (limit : Duration) : Option Duration := limit.scale? inactivityFactor

def accepts (l : Login) (c : Credentials) : Bool :=
  l.user.all (· == c.username) && l.password.all (· == c.password)

/-- Reads messages into a buffer until `done` holds after one of them: the outcome, the messages
left, and whether the channel ended. -/
def collect (done : List Char → Bool) (operation address : String) (limit : Duration)
    (buffer : List Char) : List ChannelMessage →
    Except DeviceError (List Char) × List ChannelMessage × Bool
  | [] => (.error (.timeout operation limit), [], false)
  | .data bytes :: rest =>
    let buffer := buffer ++ Text.ofUtf8 bytes
    if done buffer then (.ok buffer, rest, false)
    else collect done operation address limit buffer rest
  | .eof :: rest => (.error (.channelClosed address), rest, false)
  | .close :: _ => (.error (.channelClosed address), [], true)
  | .other :: rest => collect done operation address limit buffer rest

/-- One wait: reads until `done` holds, the channel ends or time is up. -/
def readUntil (operation address : String) (done : List Char → Bool) :
    Action Shell DeviceError (List Char) := fun s =>
  if s.ended then (.error (.channelClosed address), s)
  else
    let (result, rest, ended) := collect done operation address s.limit [] s.inbox
    (result, { s with inbox := rest, ended := ended })

def readUntilPrompt (target : SessionTarget) (operation : String) :
    Action Shell DeviceError (List Char) :=
  readUntil operation target.address
    (Prompt.endsWithPrompt target.platform.promptTerminators)

def write (text : String) : Action Shell DeviceError Unit := fun s =>
  (.ok (), { s with
    writes := s.writes ++ [text]
    inbox := s.inbox ++ s.replies.headD []
    replies := s.replies.tail })

/-- Writes a command and its return, in between waiting for the echo in the standard mode. -/
def writeCommand (target : SessionTarget) (command : String) :
    SendMode → Action Shell DeviceError Unit
  | .standard => do
    write command
    let _ ← readUntil "command echo" target.address fun cs => Prompt.echoes cs command.toList
    write "\n"
  | .eager => write (command ++ "\n")

/-- Sends a command: its output up to the next prompt, or the error that it shows. -/
def sendCommand (target : SessionTarget) (command : String) (mode : SendMode) :
    Action Shell DeviceError String := do
  writeCommand target command mode
  let output ← readUntilPrompt target command
  match Prompt.errorLine? output with
  | some line => throw (.commandFailed command (String.ofList line))
  | none => pure (String.ofList output)

/-- Sends commands at once, regardless of their output. -/
def sendEach (target : SessionTarget) : List String → Action Shell DeviceError Unit
  | [] => pure ()
  | command :: rest => do
    let _ ← sendCommand target command .eager
    sendEach target rest

def connect (target : SessionTarget) : Action Shell DeviceError Unit := fun s =>
  if !s.login.listens then (.error .transport, s)
  else
    let asked := { s with logins := s.logins ++ [target.credentials] }
    if accepts s.login target.credentials then (.ok (), asked)
    else (.error (.authentication target.credentials.username), asked)

/-- Asks for a terminal and starts the shell, whose greeting arrives. -/
def start : Action Shell DeviceError Unit := fun s =>
  (.ok (), { s with terminal := some ⟨"xterm", 511, 24⟩, inbox := s.greeting })

/-- Opens a session: logs in, waits for the first prompt and sets the session up. -/
def openSession (target : SessionTarget) : Action Shell DeviceError Unit := do
  connect target
  start
  let _ ← readUntilPrompt target "login prompt"
  sendEach target target.platform.onOpen

/-- Opens a session that is given up after a silence. Where there is no duration for the silence,
the program breaks off before it opens anything. -/
def openSession? (target : SessionTarget) (s : Shell) : Option (Except DeviceError Unit × Shell) :=
  (inactivityLimit? s.limit).map fun _ => openSession target s

/-- Closes the session; doing so again does nothing. -/
def close : Action Shell DeviceError Unit := fun s => (.ok (), { s with closed := true })

def connector : Connector Shell where
  openSession := openSession
  send := sendCommand
  close _ := close

end Shell

end NodeDeploy
