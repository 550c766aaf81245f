import NodeDeploy.Device.Session
import NodeDeploy.Text.Search

/-! # A bench of devices

A bench stands in for devices: its sessions accept every command and keep a record. It can be told
to refuse every login, to reject the commands with some part in them, and to fail every close.

* `Bench.connector` is the connector to the devices of a bench.
-/

namespace NodeDeploy

structure SentCommand where
  address : String
  mode : SendMode
  command : String
  deriving DecidableEq, Repr, Inhabited

/-- What happened on the bench, and what it is told to refuse. -/
structure Bench where
  opened : List SessionTarget := []
  sent : List SentCommand := []
  closes : Nat := 0
  /-- The part of a command that makes it fail. -/
  rejecting : Option String := none
  /-- The user in whose name every login fails. -/
  refusing : Option String := none
  /-- The address in whose name every close fails. -/
  breaking : Option String := none
  deriving DecidableEq, Repr, Inhabited

namespace Bench

def rejects (b : Bench) (command : String) : Bool :=
  match b.rejecting with
  | some part => occursIn part command
  | none => false

/-- Opens a session; a login that fails leaves no record. -/
def login (target : SessionTarget) (b : Bench) : Except DeviceError Unit × Bench :=
  match b.refusing with
  | some user => (.error (.authentication user), b)
  | none => (.ok (), { b with opened := b.opened ++ [target] })

/-- Sends a command, whose record stays even if it is rejected. -/
def receive (address command : String) (mode : SendMode) (b : Bench) :
    Except DeviceError String × Bench :=
  let recorded := { b with sent := b.sent ++ [⟨address, mode, command⟩] }
  if b.rejects command then (.error (.commandFailed command "Error: mock failure"), recorded)
  else (.ok "", recorded)

/-- Closes a session; every close counts. -/
def hangUp (b : Bench) : Except DeviceError Unit × Bench :=
  let counted := { b with closes := b.closes + 1 }
  match b.breaking with
  | some address => (.error (.channelClosed address), counted)
  | none => (.ok (), counted)

def connector : Connector Bench where
  openSession target := fun b => login target b
  send target command mode := fun b => receive target.address command mode b
  close _ := fun b => hangUp b

end Bench

end NodeDeploy
