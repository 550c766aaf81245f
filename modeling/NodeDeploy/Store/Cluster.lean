import NodeDeploy.Cluster.Request
import NodeDeploy.Store.Basic

/-! # The store of a cluster

The store of a cluster makes one or two requests for each call: what depends on an object being
there asks for it first. An object is never asked for by the empty name, and names go into the
target of a request as they are.

* `ClusterStore.store` is the store behind a transport.
-/

namespace NodeDeploy

namespace ClusterStore

variable {σ α : Type}

def exchange (t : Transport σ) (r : Request) (read : Json → Option α) :
    Action σ ClusterError α := fun s =>
  let (response, s) := t r s
  match response.json with
  | .error e => (.error e, s)
  | .ok j =>
    match read j with
    | some x => (.ok x, s)
    | none => (.error .garbled, s)

/-- Refuses to address an object by the empty name. -/
def named (key : ObjectKey) : Action σ ClusterError Unit :=
  if key.name.isEmpty then throw .unnamed else pure ()

def address (text : String) : Action σ ClusterError Target :=
  match Target.read? text with
  | some target => pure target
  | none => throw .unaddressable

def find (t : Transport σ) (kind : ResourceKind) (read : Json → Option α) (key : ObjectKey) :
    Action σ ClusterError (Option α) := fun s =>
  let asked : Action σ ClusterError α := do
    named key
    let target ← address (kind.objectPath key)
    exchange t (.get target) read
  match asked s with
  | (.ok x, s) => (.ok (some x), s)
  | (.error (.refused r), s) =>
    if r.reason = "NotFound" then (.ok none, s) else (.error (.refused r), s)
  | (.error e, s) => (.error e, s)

def merge (t : Transport σ) (kind : ResourceKind) (read : Json → Option α) (key : ObjectKey)
    (part : String) (change : Json) : Action σ ClusterError Unit := do
  named key
  let target ← address (kind.objectPath key ++ part ++ "?")
  let _ ← exchange t (.mergePatch target change) read

def apply (t : Transport σ) (kind : ResourceKind) (read : Json → Option α) (key : ObjectKey)
    (object : Json) : Action σ ClusterError Unit := do
  named key
  let target ← address (kind.objectPath key ++ "?" ++ Request.applyQuery)
  let _ ← exchange t (.apply target object) read

def delete (t : Transport σ) (kind : ResourceKind) (read : Json → Option α) (key : ObjectKey) :
    Action σ ClusterError Unit := do
  named key
  let target ← address (kind.objectPath key ++ "?")
  let _ ← exchange t (.delete target) read

def create (t : Transport σ) (kind : ResourceKind) (read : Json → Option α) (ns : String)
    (object : Json) : Action σ ClusterError Unit := do
  let target ← address (kind.listPath ns ++ "?")
  let _ ← exchange t (.create target object) read

/-- Reads what a list tells of itself, none of which counts. -/
def readListMetadata (j : Json) : Option Unit := do
  let m ← j.readObject
  let _ ← Json.optional m "continue" Json.readString
  let _ ← Json.optional m "remainingItemCount" Json.readInt64
  let _ ← Json.optional m "resourceVersion" Json.readString
  let _ ← Json.optional m "selfLink" Json.readString

/-- Whether the members of a list other than its own can be read, although none of them counts. -/
def othersSound (members : List (String × Json)) : Bool :=
  members.all fun (name, j) =>
    name = "metadata" || name = "items" || j.isSoundWithin (Json.depthLimit - 1)

/-- Reads a list of objects; a list may be null. -/
def readItems (read : Json → Option α) : Json → Option (List α)
  | .obj members => do
    let m ← Json.readRecord ["metadata", "items"] 0 (.obj members)
    guard (othersSound m)
    let _ ← Json.defaulted m "metadata" readListMetadata ()
    let items ← Json.required m "items" (Json.readNullable (Json.readList read))
    some (items.getD [])
  | _ => none

def listIn (t : Transport σ) (kind : ResourceKind) (read : Json → Option α) (ns : String) :
    Action σ ClusterError (List α) := do
  let target ← address (kind.listPath ns ++ "?")
  exchange t (.get target) (readItems read)

def readSummary (s : String) : Option Unit := guard (s = "Success" ∨ s = "Failure")

def readCause (j : Json) : Option Unit := do
  let m ← j.readRecord ["reason", "message", "field"] 0
  let _ ← Json.defaulted m "reason" Json.readString ""
  let _ ← Json.defaulted m "message" Json.readString ""
  let _ ← Json.defaulted m "field" Json.readString ""

def readDetails (j : Json) : Option Unit := do
  let m ← j.readRecord ["name", "group", "kind", "uid", "causes", "retryAfterSeconds"] 0
  let _ ← Json.defaulted m "name" Json.readString ""
  let _ ← Json.defaulted m "group" Json.readString ""
  let _ ← Json.defaulted m "kind" Json.readString ""
  let _ ← Json.defaulted m "uid" Json.readString ""
  let _ ← Json.defaulted m "causes" (Json.readList readCause) []
  let _ ← Json.defaulted m "retryAfterSeconds" (Json.readNat 0xffffffff) 0

def readStatus (j : Json) : Option Unit := do
  let m ← j.readRecord ["status", "code", "message", "reason", "details"] 0
  let _ ← Json.defaulted m "code" (Json.readNat 0xffff) 0
  let _ ← Json.optional m "status" (Json.readWord readSummary)
  let _ ← Json.defaulted m "message" Json.readString ""
  let _ ← Json.defaulted m "reason" Json.readString ""
  let _ ← Json.optional m "details" readDetails

/-- Reads what is said of a deletion: a status, or the object. All parts of it must be sound. -/
def readDeleted (read : Json → Option α) (j : Json) : Option Unit :=
  if !j.isSound then none
  else
    match j.find? "kind" with
    | some (.str "Status") => readStatus j
    | _ => (read j).map fun _ => ()

/-- The namespace and name of an object that is to be written. -/
def keyOf (m : Metadata) : Action σ StoreError ObjectKey :=
  match m.ns, m.name with
  | none, _ => throw (.missingField "namespace")
  | some _, none => throw (.missingField "name")
  | some ns, some name => pure ⟨ns, name⟩

def patchFinalizers (t : Transport σ) (i : NodeIntent) (finalizers : List String) :
    Action σ StoreError Unit :=
  match i.metadata.ns with
  | none => throw (.missingField "namespace")
  | some _ =>
    (merge t .nodeIntent NodeIntent.ofJson? i.metadata.key ""
      (.obj [("metadata", .obj [("finalizers", .strings finalizers)])])).mapError .cluster

def updateStatus (t : Transport σ) (i : NodeIntent) : Action σ StoreError Unit := do
  let key ← keyOf i.metadata
  (merge t .nodeIntent NodeIntent.ofJson? key "/status"
    (.obj [("status", .orNull (i.status.map NodeIntentStatus.toJson))])).mapError .cluster

/-- Adds a finalizer to those that the intent is known to have, unless it is one of them. -/
def addFinalizer (t : Transport σ) (i : NodeIntent) (f : String) : Action σ StoreError Unit :=
  let known := i.metadata.finalizerList
  if known.contains f then pure () else patchFinalizers t i (known ++ [f])

/-- Takes a finalizer from those that the intent is known to have, if it is one of them. -/
def removeFinalizer (t : Transport σ) (i : NodeIntent) (f : String) : Action σ StoreError Unit :=
  let known := i.metadata.finalizerList
  if known.contains f then patchFinalizers t i (known.filter (· != f)) else pure ()

/-- Applies an attachment unless the one that is there agrees with it. -/
def applyAttachment (t : Transport σ) (a : NetworkAttachment) : Action σ StoreError Bool := do
  let key ← keyOf a.metadata
  let existing ←
    (find t .networkAttachment NetworkAttachment.ofJson? key).mapError .cluster
  if existing.any (·.agrees a) then pure false
  else
    (apply t .networkAttachment NetworkAttachment.ofJson? key a.toJson).mapError .cluster
    pure true

/-- Creates a claim unless there is one. -/
def applyClaim (t : Transport σ) (c : VolumeClaim) : Action σ StoreError Bool := do
  let key ← keyOf c.metadata
  let existing ← (find t .volumeClaim VolumeClaim.ofJson? key).mapError .cluster
  if existing.isSome then pure false
  else
    (create t .volumeClaim VolumeClaim.ofJson? key.ns c.toJson).mapError .cluster
    pure true

def createPod (t : Transport σ) (p : Pod) : Action σ StoreError Unit := do
  let key ← keyOf p.metadata
  (create t .pod Pod.ofJson? key.ns p.toJson).mapError .cluster

def deletePod (t : Transport σ) (key : ObjectKey) : Action σ StoreError Unit := do
  let existing ← (find t .pod Pod.ofJson? key).mapError .cluster
  if existing.isSome then
    (delete t .pod (readDeleted Pod.ofJson?) key).mapError .cluster

def store (t : Transport σ) : Store σ where
  getIntent k := (find t .nodeIntent NodeIntent.ofJson? k).mapError .cluster
  updateStatus := updateStatus t
  addFinalizer := addFinalizer t
  removeFinalizer := removeFinalizer t
  getConfig k := (find t .nodeConfig NodeConfig.ofJson? k).mapError .cluster
  listConfigs ns :=
    (listIn t .nodeConfig NodeConfig.ofJson? ns).mapError .cluster
  applyAttachment := applyAttachment t
  applyClaim := applyClaim t
  getPod k := (find t .pod Pod.ofJson? k).mapError .cluster
  createPod := createPod t
  deletePod := deletePod t
  getSecret k := (find t .secret Secret.ofJson? k).mapError .cluster

def describe : String := "KubeStore \x7b .. \x7d"

end ClusterStore

end NodeDeploy
