import NodeDeploy.Store.Basic

/-! # Stores in memory

A store in memory keeps its objects under their namespace and name, counts what is written, and can
be told to refuse the creation of pods and the release of intents.

* `Memory.store` is the store whose state is such a memory.
-/

namespace NodeDeploy

/-- The objects of a store, the number of writes, and what is refused. -/
structure Memory where
  intents : Dict ObjectKey NodeIntent := {}
  configs : Dict ObjectKey NodeConfig := {}
  attachments : Dict ObjectKey NetworkAttachment := {}
  claims : Dict ObjectKey VolumeClaim := {}
  pods : Dict ObjectKey Pod := {}
  secrets : Dict ObjectKey Secret := {}
  /-- The status of a pod that was just created. -/
  initialStatus : Option PodStatus := none
  /-- The words in which every creation of a pod is refused. -/
  refusingPods : Option String := none
  /-- The words in which every removal of a finalizer is refused. -/
  refusingRelease : Option String := none
  statusWrites : Nat := 0
  attachmentWrites : Nat := 0
  claimWrites : Nat := 0
  podCreates : Nat := 0
  podDeletes : Nat := 0
  deriving DecidableEq, Repr, Inhabited

namespace Memory

def mutations (m : Memory) : Nat :=
  m.statusWrites + m.attachmentWrites + m.claimWrites + m.podCreates + m.podDeletes

/-! ## Setting the scene -/

def addIntent (i : NodeIntent) (m : Memory) : Memory :=
  { m with intents := m.intents.insert i.metadata.key i }

def addConfig (c : NodeConfig) (m : Memory) : Memory :=
  { m with configs := m.configs.insert c.metadata.key c }

def addSecret (s : Secret) (m : Memory) : Memory :=
  { m with secrets := m.secrets.insert s.metadata.key s }

def setPodStatus (k : ObjectKey) (s : PodStatus) (m : Memory) : Memory :=
  { m with pods := m.pods.modify k fun p => { p with status := some s } }

/-- Marks an intent, if it exists, as being deleted since an instant. -/
def markDeleted (k : ObjectKey) (since : Instant) (m : Memory) : Memory :=
  { m with intents := m.intents.modify k fun i =>
      { i with metadata := { i.metadata with deletionTimestamp := some since } } }

/-! ## The calls of a store -/

/-- Records the status of an intent; the write counts even if the intent is gone. -/
def updateStatus (i : NodeIntent) (m : Memory) : Memory :=
  { m with
    statusWrites := m.statusWrites + 1
    intents := m.intents.modify i.metadata.key fun j => { j with status := i.status } }

/-- The metadata with a finalizer, added at the end unless it is there. -/
def withFinalizer (f : String) (d : Metadata) : Metadata :=
  let l := d.finalizerList
  { d with finalizers := some (if l.contains f then l else l ++ [f]) }

def withoutFinalizer (f : String) (d : Metadata) : Metadata :=
  { d with finalizers := d.finalizers.map fun l => l.filter (· != f) }

def addFinalizer (i : NodeIntent) (f : String) (m : Memory) : Memory :=
  { m with intents := m.intents.modify i.metadata.key fun j =>
      { j with metadata := withFinalizer f j.metadata } }

/-- Whether nothing keeps an intent from going away. -/
def isReleased (i : NodeIntent) : Bool := i.metadata.isDeleted && i.metadata.finalizerList.isEmpty

/-- Removes a finalizer from an intent, if it exists; an intent that is being deleted goes away with
its last finalizer. -/
def removeFinalizer (i : NodeIntent) (f : String) (m : Memory) :
    Except StoreError Unit × Memory :=
  match m.refusingRelease with
  | some message => (.error (.backend message), m)
  | none =>
    let k := i.metadata.key
    match m.intents.find? k with
    | none => (.ok (), m)
    | some j =>
      let j := { j with metadata := withoutFinalizer f j.metadata }
      if isReleased j then (.ok (), { m with intents := m.intents.erase k })
      else (.ok (), { m with intents := m.intents.insert k j })

/-- The configurations of a namespace, by name. -/
def listConfigs (ns : String) (m : Memory) : List NodeConfig :=
  (m.configs.entries.filter fun e => e.1.ns == ns).map (·.2)

/-- Writes an attachment unless the stored one agrees with it; whether it was written. -/
def applyAttachment (a : NetworkAttachment) (m : Memory) : Bool × Memory :=
  let k := a.metadata.key
  if (m.attachments.find? k).any (·.agrees a) then (false, m)
  else (true, { m with
    attachments := m.attachments.insert k a
    attachmentWrites := m.attachmentWrites + 1 })

/-- Creates a claim unless there is one under its key; whether it was created. -/
def applyClaim (c : VolumeClaim) (m : Memory) : Bool × Memory :=
  let k := c.metadata.key
  if m.claims.contains k then (false, m)
  else (true, { m with claims := m.claims.insert k c, claimWrites := m.claimWrites + 1 })

/-- Creates a pod with the initial status; there must be none under its key. -/
def createPod (p : Pod) (m : Memory) : Except StoreError Unit × Memory :=
  match m.refusingPods with
  | some message => (.error (.backend message), m)
  | none =>
    let k := p.metadata.key
    if m.pods.contains k then
      (.error (.backend ("pods " ++ quoted k.name ++ " already exists")), m)
    else (.ok (), { m with
      pods := m.pods.insert k { p with status := m.initialStatus }
      podCreates := m.podCreates + 1 })

def deletePod (k : ObjectKey) (m : Memory) : Memory :=
  if m.pods.contains k then { m with pods := m.pods.erase k, podDeletes := m.podDeletes + 1 }
  else m

def store : Store Memory where
  getIntent k := .view fun m => m.intents.find? k
  updateStatus i := .update (updateStatus i)
  addFinalizer i f := .update (addFinalizer i f)
  removeFinalizer i f := fun m => removeFinalizer i f m
  getConfig k := .view fun m => m.configs.find? k
  listConfigs ns := .view (listConfigs ns)
  applyAttachment a := fun m => let (written, m) := applyAttachment a m; (.ok written, m)
  applyClaim c := fun m => let (created, m) := applyClaim c m; (.ok created, m)
  getPod k := .view fun m => m.pods.find? k
  createPod p := fun m => createPod p m
  deletePod k := .update (deletePod k)
  getSecret k := .view fun m => m.secrets.find? k

end Memory

end NodeDeploy
