import NodeDeploy.Dispatch.Reaction
import NodeDeploy.Dispatch.Schedule
import NodeDeploy.Resource.NodeIntent
import NodeDeploy.Resource.Pod

/-! # Runs of the dispatcher

The dispatcher watches intents and the pods they own, and runs a pass for an intent when its request
is due. A change of an intent or of a pod requests a pass of the intent, or of the owner of the pod,
at once. A pass of an intent that is not known is left out; an intent without a namespace is known
in all of them. Passes take no time here, and whatever else happens to the world happens at the
times of a list.

* `Dispatcher.run` is a run up to a given time.
-/

namespace NodeDeploy

inductive ChangeKind where
  | added
  | modified
  | deleted
  deriving DecidableEq, Repr, Inhabited

inductive WatchEvent where
  | intent (kind : ChangeKind) (object : NodeIntent)
  | pod (kind : ChangeKind) (object : Pod)

def Metadata.watchKey (m : Metadata) : WatchKey := ⟨m.ns, m.displayName⟩

def Pod.owningIntents (p : Pod) : List WatchKey :=
  let isIntent (o : OwnerReference) : Bool :=
    o.kind == ResourceKind.nodeIntent.kind && o.apiVersion == ResourceKind.nodeIntent.apiVersion
  (p.metadata.owners.filter isIntent).map fun o => ⟨p.metadata.ns, o.name⟩

/-- Something that happens at a time: the world changes, and the dispatcher is told of changes. -/
structure Happening (σ : Type) where
  time : Nat
  change : σ → σ
  events : List WatchEvent

/-- The dispatcher in its world, with the passes that it ran. -/
structure Dispatcher (σ : Type) where
  world : σ
  known : Dict WatchKey Unit := {}
  schedule : Schedule := {}
  tracker : RetryTracker := .standard
  passes : List (Nat × ObjectKey) := []

namespace Dispatcher

variable {σ : Type}

def requestAll (d : Dispatcher σ) (keys : List WatchKey) (time : Nat) : Dispatcher σ :=
  { d with schedule := keys.foldl (fun s k => Schedule.request s k time) d.schedule }

def notice (d : Dispatcher σ) (time : Nat) : WatchEvent → Dispatcher σ
  | .intent .deleted i => { d with known := d.known.erase i.metadata.watchKey }
  | .intent _ i =>
    { d with known := d.known.insert i.metadata.watchKey () }.requestAll [i.metadata.watchKey] time
  | .pod _ p => d.requestAll p.owningIntents time

def undergo (d : Dispatcher σ) (h : Happening σ) : Dispatcher σ :=
  h.events.foldl (fun d e => d.notice h.time e) { d with world := h.change d.world }

/-- The intent that a request leads to: the one that it names, or the one of this name without a
namespace. -/
def intent? (d : Dispatcher σ) (key : WatchKey) : Option ObjectKey :=
  if d.known.contains key then some key.object
  else if d.known.contains { key with ns := none } then some ⟨"", key.name⟩
  else none

def runPass (pass : ObjectKey → σ → Except Failure Outcome × σ) (d : Dispatcher σ)
    (key : WatchKey) (time : Nat) : Dispatcher σ :=
  let schedule := Dict.erase d.schedule key
  match d.intent? key with
  | none => { d with schedule }
  | some intent =>
    let (result, world) := pass intent d.world
    let (reaction, tracker) := react d.tracker intent.text result
    let schedule :=
      match reaction with
      | some (.requeue delay) => Schedule.request schedule key (time + delay.nanos)
      | _ => schedule
    { d with world, tracker, schedule, passes := d.passes ++ [(time, intent)] }

/-- Runs for so many steps at most, each a pass or something that happens, up to a time. -/
def runSteps (pass : ObjectKey → σ → Except Failure Outcome × σ) (stop : Nat) :
    Nat → List (Happening σ) → Dispatcher σ → Dispatcher σ
  | 0, _, d => d
  | steps + 1, happenings, d =>
    match happenings, Schedule.next? d.schedule with
    | [], none => d
    | [], some (key, due) =>
      if due < stop then runSteps pass stop steps [] (d.runPass pass key due) else d
    | h :: rest, none =>
      if h.time < stop then runSteps pass stop steps rest (d.undergo h) else d
    | h :: rest, some (key, due) =>
      if due < h.time then
        if due < stop then runSteps pass stop steps (h :: rest) (d.runPass pass key due) else d
      else if h.time < stop then runSteps pass stop steps rest (d.undergo h)
      else d

def requestCount : List WatchEvent → Nat
  | [] => 0
  | .intent _ _ :: rest => 1 + requestCount rest
  | .pod _ p :: rest => p.owningIntents.length + requestCount rest

/-- As many steps as there can be up to a time: the passes of one key are apart by the time that a
request waits. -/
def stepBound (stop : Nat) (happenings : List (Happening σ)) : Nat :=
  let keys := happenings.foldl (fun n h => n + requestCount h.events) 0
  happenings.length + keys * (stop / Schedule.debounce + 2)

/-- What happens one after the other: each thing at its time, or at that of the one before it if
that is later. -/
def inOrder (now : Nat) : List (Happening σ) → List (Happening σ)
  | [] => []
  | h :: rest =>
    let time := max now h.time
    { h with time } :: inOrder time rest

/-- A run up to a time, in a world where things happen one after the other. -/
def run (pass : ObjectKey → σ → Except Failure Outcome × σ) (stop : Nat)
    (happenings : List (Happening σ)) (world : σ) : Dispatcher σ :=
  runSteps pass stop (stepBound stop happenings) (inOrder 0 happenings) { world }

end Dispatcher

end NodeDeploy
