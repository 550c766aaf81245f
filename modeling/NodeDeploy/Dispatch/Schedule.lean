import NodeDeploy.Resource.Metadata

/-! # Schedules

A schedule says when the next pass of each intent is due. A request for a pass waits for a second,
so that a burst of requests makes one pass. While a pass is due, a request for no later than that
takes its place, and a later one is dropped. Times are in nanoseconds.

Requests name intents as the watched objects do, where no namespace and the empty one are two
things: requests that differ in this wait side by side, even if they lead to the same intent.

* `WatchKey` is how a request names an intent;
* `Schedule.request` makes a request;
* `Schedule.next?` is the pass that is due first.
-/

namespace NodeDeploy

/-- The namespace of a watched object, if it has one, and its name. -/
structure WatchKey where
  ns : Option String
  name : String
  deriving DecidableEq, Repr, Inhabited

namespace WatchKey

/-- The key of an intent, under which a store keeps it. -/
def object (k : WatchKey) : ObjectKey := ⟨k.ns.getD "", k.name⟩

/-- Keys without a namespace come first; the others are in the order of the keys of objects. -/
def before (a b : WatchKey) : Bool :=
  match a.ns, b.ns with
  | none, none => Key.lt a.name b.name
  | none, some _ => true
  | some _, none => false
  | some _, some _ => Key.lt a.object b.object

end WatchKey

instance : Key WatchKey where
  lt := WatchKey.before
  irrefl a := by
    obtain ⟨ns, name⟩ := a
    cases ns <;> simp [WatchKey.before, Key.irrefl]
  trans {a b c} h g := by
    obtain ⟨ns₁, name₁⟩ := a
    obtain ⟨ns₂, name₂⟩ := b
    obtain ⟨ns₃, name₃⟩ := c
    cases ns₁ <;> cases ns₂ <;> cases ns₃ <;> simp_all only [WatchKey.before, Bool.false_eq_true]
    · exact Key.trans h g
    · exact Key.trans h g
  connected {a b} h g := by
    obtain ⟨ns₁, name₁⟩ := a
    obtain ⟨ns₂, name₂⟩ := b
    cases ns₁ <;> cases ns₂ <;> simp_all only [WatchKey.before, Bool.true_eq_false]
    · exact congrArg (WatchKey.mk none) (Key.connected h g)
    · have := Key.connected h g
      simp only [WatchKey.object, Option.getD_some, ObjectKey.mk.injEq] at this
      rw [this.1, this.2]

/-- When the next pass of each intent is due. -/
abbrev Schedule := Dict WatchKey Nat

namespace Schedule

def debounce : Nat := 1000000000

def request (s : Schedule) (key : WatchKey) (time : Nat) : Schedule :=
  match Dict.find? s key with
  | some due => if time ≤ due then Dict.insert s key (time + debounce) else s
  | none => Dict.insert s key (time + debounce)

/-- The first of the passes that are due at the earliest time. -/
def earliest : List (WatchKey × Nat) → Option (WatchKey × Nat)
  | [] => none
  | e :: rest =>
    match earliest rest with
    | some f => if f.2 < e.2 then some f else some e
    | none => some e

def next? (s : Schedule) : Option (WatchKey × Nat) := earliest s.entries

end Schedule

end NodeDeploy
