import NodeDeploy.Store.Basic
import NodeDeploy.Workload.Revision

/-! # Calls of a store

A call is known by its operation and by what it is about. A call that applies an object also says,
once it is answered, whether anything was written.

* `StoreCall.text` is the text of a call;
* `Store.recorded` is a store whose calls are recorded, and some of which are made to fail.
-/

namespace NodeDeploy

inductive StoreOperation where
  | getIntent
  | updateStatus
  | addFinalizer
  | removeFinalizer
  | getConfig
  | listConfigs
  | applyAttachment
  | applyClaim
  | getPod
  | createPod
  | deletePod
  | getSecret
  deriving DecidableEq, Repr, Inhabited

def StoreOperation.name : StoreOperation → String
  | .getIntent => "get_intent"
  | .updateStatus => "update_intent_status"
  | .addFinalizer => "add_finalizer"
  | .removeFinalizer => "remove_finalizer"
  | .getConfig => "get_node_config"
  | .listConfigs => "list_node_configs"
  | .applyAttachment => "apply_network_attachment"
  | .applyClaim => "apply_volume_claim"
  | .getPod => "get_pod"
  | .createPod => "create_pod"
  | .deletePod => "delete_pod"
  | .getSecret => "get_secret"

structure StoreCall where
  operation : StoreOperation
  /-- What the call is about. -/
  subject : String
  /-- Whether an applied object was written. -/
  written : Option Bool := none
  deriving DecidableEq, Repr, Inhabited

def StoreCall.text (c : StoreCall) : String :=
  c.operation.name ++ " " ++ c.subject ++
    match c.written with
    | none => ""
    | some true => " -> true"
    | some false => " -> false"

/-- What is told of a status: its ready condition. -/
def NodeIntent.statusText (i : NodeIntent) : String :=
  match i.readyCondition? with
  | some c => c.type.word ++ "/" ++ c.status.word ++ "/" ++ c.reason.word ++ " " ++ c.message
  | none => "none"

/-- Calls of an operation that fail: some are let pass first, and then so many fail. -/
structure Fault where
  operation : String
  message : String
  skip : Nat := 0
  /-- How often it strikes; without end unless given. -/
  times : Option Nat := none
  deriving DecidableEq, Repr, Inhabited

namespace Fault

def isSpent (f : Fault) : Bool := f.times == some 0

/-- Tries the faults of an operation in order. One that still lets calls pass lets this one pass,
and the next is tried; the first that strikes gives its message. -/
def strike (operation : String) : List Fault → Option String × List Fault
  | [] => (none, [])
  | f :: rest =>
    if f.operation ≠ operation ∨ f.isSpent then
      let (message, rest) := strike operation rest
      (message, f :: rest)
    else if 0 < f.skip then
      let (message, rest) := strike operation rest
      (message, { f with skip := f.skip - 1 } :: rest)
    else (some f.message, { f with times := f.times.map (· - 1) } :: rest)

end Fault

/-- A state with the calls that were made on it, and the faults still in store for them. -/
structure Recorded (σ : Type) where
  state : σ
  calls : List StoreCall := []
  faults : List Fault := []

namespace Recorded

variable {σ α : Type}

/-- Makes a call: it is recorded, and runs unless a fault strikes. -/
def call (operation : StoreOperation) (subject : String) (a : Action σ StoreError α)
    (written : α → Option Bool := fun _ => none) : Action (Recorded σ) StoreError α := fun s =>
  let (struck, faults) := Fault.strike operation.name s.faults
  match struck with
  | some message =>
    (.error (.backend message), { s with calls := s.calls ++ [⟨operation, subject, none⟩], faults })
  | none =>
    match a s.state with
    | (.ok x, state) =>
      (.ok x, { state, faults, calls := s.calls ++ [⟨operation, subject, written x⟩] })
    | (.error e, state) =>
      (.error e, { state, faults, calls := s.calls ++ [⟨operation, subject, none⟩] })

end Recorded

def Store.recorded {σ : Type} (s : Store σ) : Store (Recorded σ) where
  getIntent k := Recorded.call .getIntent k.text (s.getIntent k)
  updateStatus i :=
    Recorded.call .updateStatus (i.metadata.key.text ++ " " ++ i.statusText) (s.updateStatus i)
  addFinalizer i f :=
    Recorded.call .addFinalizer (i.metadata.key.text ++ " " ++ f) (s.addFinalizer i f)
  removeFinalizer i f :=
    Recorded.call .removeFinalizer (i.metadata.key.text ++ " " ++ f) (s.removeFinalizer i f)
  getConfig k := Recorded.call .getConfig k.text (s.getConfig k)
  listConfigs ns := Recorded.call .listConfigs ns (s.listConfigs ns)
  applyAttachment a :=
    Recorded.call .applyAttachment a.metadata.key.text (s.applyAttachment a) some
  applyClaim c := Recorded.call .applyClaim c.metadata.key.text (s.applyClaim c) some
  getPod k := Recorded.call .getPod k.text (s.getPod k)
  createPod p :=
    Recorded.call .createPod
      (p.metadata.key.text ++ " " ++ p.revision?.getD "none") (s.createPod p)
  deletePod k := Recorded.call .deletePod k.text (s.deletePod k)
  getSecret k := Recorded.call .getSecret k.text (s.getSecret k)

end NodeDeploy
