import NodeDeploy.Proofs.Addresses
import NodeDeploy.Proofs.JsonText
import NodeDeploy.Store.Cluster

/-! # What the cluster does with requests

The cluster keeps an object as a document, under its kind and its key. It is asked for one object or
for those of a namespace, told to create, to delete or to patch one, or to apply what an object
shall be. A merge of two JSON values replaces arrays whole and drops what null stands for. The
status of an object is changed apart from the rest of it, and an object that is being deleted goes
away with its last finalizer.

* `Document` is an object that can be put into text.
* `ApiCall.run` is what a call does to the documents, and what is answered.
* `ApiCall.request` is the request that a call is sent as.
* `Serves` says that the answers that come back over a transport are those of the calls.
-/

namespace NodeDeploy

/-! ## Changing members -/

namespace Json

def isNull : Json → Bool
  | .null => true
  | _ => false

/-- The members of an object; other values have none. -/
def membersOf : Json → List (String × Json)
  | .obj members => members
  | _ => []

def unset (name : String) (members : List (String × Json)) : List (String × Json) :=
  members.filter fun m => m.1 ≠ name

def setMember (name : String) (j : Json) (members : List (String × Json)) :
    List (String × Json) :=
  unset name members ++ [(name, j)]

/-- The members with what others have under a name, be it nothing. -/
def copyMember (name : String) (source members : List (String × Json)) : List (String × Json) :=
  match lookup name source with
  | some j => setMember name j members
  | none => unset name members

mutual

/-- A value under a patch: an object changes member by member, and any other patch takes the place
of the value. -/
def merged (target : Json) : Json → Json
  | .obj changes => .obj (mergedMembers target.membersOf changes)
  | j => j

/-- Members under a patch, where null drops a member. -/
def mergedMembers (members : List (String × Json)) : List (String × Json) → List (String × Json)
  | [] => members
  | (name, j) :: rest =>
    mergedMembers
      (if j.isNull then unset name members
        else setMember name (merged ((lookup name members).getD .null) j) members) rest

end

/-! Changes keep members plain. -/

theorem MembersPlain.of_mem {members : List (String × Json)}
    (h : ∀ m ∈ members, m.2.Plain) : MembersPlain members := by
  induction members with
  | nil => trivial
  | cons m members ih =>
    exact ⟨h m List.mem_cons_self, ih fun k hk => h k (List.mem_cons_of_mem m hk)⟩

theorem MembersPlain.mem {members : List (String × Json)} (h : MembersPlain members)
    {m : String × Json} (hm : m ∈ members) : m.2.Plain := by
  induction members with
  | nil => cases hm
  | cons k members ih =>
    rcases List.mem_cons.1 hm with rfl | hm
    · exact h.1
    · exact ih h.2 hm

theorem plain_membersOf {j : Json} (h : j.Plain) : MembersPlain j.membersOf := by
  cases j with
  | obj members => exact h
  | _ => trivial

theorem plain_unset {members : List (String × Json)} (h : MembersPlain members) (name : String) :
    MembersPlain (unset name members) :=
  .of_mem fun _ hm => h.mem (List.mem_filter.1 hm).1

theorem plain_setMember {members : List (String × Json)} {j : Json} (h : MembersPlain members)
    (hj : j.Plain) (name : String) : MembersPlain (setMember name j members) := by
  refine .of_mem fun m hm => ?_
  rcases List.mem_append.1 hm with hm | hm
  · exact (plain_unset h name).mem hm
  · obtain rfl := List.mem_singleton.1 hm
    exact hj

theorem mem_of_valuesOf {name : String} {members : List (String × Json)} {j : Json}
    (h : j ∈ valuesOf name members) : (name, j) ∈ members := by
  induction members with
  | nil => cases h
  | cons m members ih =>
    obtain ⟨k, v⟩ := m
    rw [valuesOf] at h
    split at h
    · next hk =>
      rcases List.mem_cons.1 h with rfl | h
      · exact hk ▸ List.mem_cons_self
      · exact List.mem_cons_of_mem _ (ih h)
    · exact List.mem_cons_of_mem _ (ih h)

theorem plain_lookup {name : String} {members : List (String × Json)} {j : Json}
    (h : MembersPlain members) (hj : lookup name members = some j) : j.Plain :=
  h.mem (mem_of_valuesOf (List.mem_of_getLast? hj))

theorem plain_copyMember {source members : List (String × Json)} (hs : MembersPlain source)
    (h : MembersPlain members) (name : String) : MembersPlain (copyMember name source members) := by
  rw [copyMember]
  split
  · next j hj => exact plain_setMember h (plain_lookup hs hj) name
  · exact plain_unset h name

theorem plain_getD_lookup {name : String} {members : List (String × Json)}
    (h : MembersPlain members) : ((lookup name members).getD .null).Plain := by
  cases hj : lookup name members with
  | none => trivial
  | some j => exact plain_lookup h hj

mutual

theorem plain_merged {target : Json} (ht : target.Plain) :
    ∀ {j : Json}, j.Plain → (merged target j).Plain
  | .obj _, hj => plain_mergedMembers (plain_membersOf ht) hj
  | .null, _ => trivial
  | .bool _, _ => trivial
  | .int _, hj => hj
  | .str _, _ => trivial
  | .arr _, hj => hj

theorem plain_mergedMembers {members : List (String × Json)} (h : MembersPlain members) :
    ∀ {changes : List (String × Json)}, MembersPlain changes →
      MembersPlain (mergedMembers members changes)
  | [], _ => h
  | (name, j) :: rest, hc => by
    rw [mergedMembers]
    split
    · exact plain_mergedMembers (plain_unset h name) hc.2
    · exact plain_mergedMembers
        (plain_setMember h (plain_merged (plain_getD_lookup h) hc.1) name) hc.2

end

end Json

/-! ## Documents -/

/-- An object as the cluster keeps it: the members of a JSON object that can be put into text. -/
structure Document where
  members : List (String × Json)
  plain : Json.MembersPlain members

namespace Document

def json (d : Document) : Json := .obj d.members

theorem plain_json (d : Document) : d.json.Plain := d.plain

def metadata (d : Document) : List (String × Json) :=
  ((Json.lookup "metadata" d.members).getD .null).membersOf

theorem plain_metadata (d : Document) : Json.MembersPlain d.metadata :=
  Json.plain_membersOf (Json.plain_getD_lookup d.plain)

/-- The namespace and name that an object gives itself. -/
def key? (d : Document) : Option ObjectKey := do
  let ns ← (Json.lookup "namespace" d.metadata).bind Json.readString
  let name ← (Json.lookup "name" d.metadata).bind Json.readString
  some ⟨ns, name⟩

/-- The object without its status, which whoever writes the object has no say in. -/
def withoutStatus (d : Document) : Document :=
  ⟨Json.unset "status" d.members, Json.plain_unset d.plain "status"⟩

def statusOnly (d : Document) : Document :=
  ⟨Json.copyMember "status" d.members [],
    Json.plain_copyMember d.plain (show Json.MembersPlain [] from trivial) "status"⟩

def merged (d change : Document) : Document :=
  ⟨Json.mergedMembers d.members change.members, Json.plain_mergedMembers d.plain change.plain⟩

/-- An object that is made what another says: in what it specifies, its labels and its owners. -/
def applied (d given : Document) : Document where
  members :=
    Json.copyMember "spec" given.members <|
      Json.setMember "metadata"
        (.obj (Json.copyMember "labels" given.metadata
          (Json.copyMember "ownerReferences" given.metadata d.metadata))) d.members
  plain := by
    refine Json.plain_copyMember given.plain (Json.plain_setMember d.plain ?_ "metadata") "spec"
    exact Json.plain_copyMember given.plain_metadata
      (Json.plain_copyMember given.plain_metadata d.plain_metadata "ownerReferences") "labels"

/-- Whether nothing keeps an object from going away. -/
def isReleased (d : Document) : Bool :=
  (Metadata.ofJson? (.obj d.metadata)).any fun m => m.isDeleted && m.finalizerList.isEmpty

end Document

/-! ## Calls -/

abbrev Documents := ResourceKind → Dict ObjectKey Document

namespace Documents

def change (kind : ResourceKind) (f : Dict ObjectKey Document → Dict ObjectKey Document)
    (ds : Documents) : Documents :=
  fun k => if k = kind then f (ds k) else ds k

@[simp] theorem change_self (kind : ResourceKind)
    (f : Dict ObjectKey Document → Dict ObjectKey Document) (ds : Documents) :
    ds.change kind f kind = f (ds kind) := if_pos rfl

theorem change_ne {kind k : ResourceKind} (h : k ≠ kind)
    (f : Dict ObjectKey Document → Dict ObjectKey Document) (ds : Documents) :
    ds.change kind f k = ds k := if_neg h

def listed (ds : Documents) (kind : ResourceKind) (ns : String) : List Document :=
  ((ds kind).entries.filter fun e => e.1.ns == ns).map (·.2)

end Documents

inductive ApiCall where
  | get (kind : ResourceKind) (key : ObjectKey)
  | list (kind : ResourceKind) (ns : String)
  | create (kind : ResourceKind) (key : ObjectKey) (body : Document)
  | merge (kind : ResourceKind) (key : ObjectKey) (change : Document)
  | mergeStatus (kind : ResourceKind) (key : ObjectKey) (change : Document)
  | apply (kind : ResourceKind) (key : ObjectKey) (body : Document)
  | delete (kind : ResourceKind) (key : ObjectKey)

inductive Reply where
  | document (d : Document)
  | documents (l : List Document)
  | done
  /-- The call is refused, for a reason in one word. -/
  | refused (reason : String)

namespace ApiCall

def request : ApiCall → Request
  | get kind key => .get ⟨kind.objectPath key, []⟩
  | list kind ns => .get ⟨kind.listPath ns, []⟩
  | create kind key body => .create ⟨kind.listPath key.ns, []⟩ body.json
  | merge kind key change => .mergePatch ⟨kind.objectPath key, []⟩ change.json
  | mergeStatus kind key change => .mergePatch ⟨kind.objectPath key ++ "/status", []⟩ change.json
  | apply kind key body =>
    .apply ⟨kind.objectPath key, ["force=true", "fieldManager=node-deployer"]⟩ body.json
  | delete kind key => .delete ⟨kind.objectPath key, []⟩

def onFound (kind : ResourceKind) (key : ObjectKey) (f : Document → Reply × Documents)
    (ds : Documents) : Reply × Documents :=
  match (ds kind).find? key with
  | some d => f d
  | none => (.refused "NotFound", ds)

/-- What a call does to the documents, and what is answered. -/
def run (call : ApiCall) (ds : Documents) : Reply × Documents :=
  match call with
  | get kind key => onFound kind key (fun d => (.document d, ds)) ds
  | list kind ns => (.documents (ds.listed kind ns), ds)
  | create kind key body =>
    if (ds kind).contains key then (.refused "AlreadyExists", ds)
    else (.document body.withoutStatus, ds.change kind (·.insert key body.withoutStatus))
  | merge kind key change =>
    onFound kind key (fun d =>
      let d' := d.merged change.withoutStatus
      (.document d', ds.change kind fun table =>
        if d'.isReleased then table.erase key else table.insert key d')) ds
  | mergeStatus kind key change =>
    onFound kind key (fun d =>
      let d' := d.merged change.statusOnly
      (.document d', ds.change kind (·.insert key d'))) ds
  | apply kind key body =>
    let d' := match (ds kind).find? key with
      | some d => d.applied body
      | none => body.withoutStatus
    (.document d', ds.change kind (·.insert key d'))
  | delete kind key =>
    onFound kind key (fun _ => (.done, ds.change kind (·.erase key))) ds

/-- A call that can be sent: it can be addressed, and an object to be written is under the key that
it gives itself. -/
def WellFormed : ApiCall → Prop
  | get kind key => kind ∈ ResourceKind.served ∧ key.Addressable
  | list kind ns => kind ∈ ResourceKind.served ∧ IsSegment ns
  | create kind key body => kind ∈ ResourceKind.served ∧ key.Addressable ∧ body.key? = some key
  | merge kind key _ => kind ∈ ResourceKind.served ∧ key.Addressable
  | mergeStatus kind key _ => kind ∈ ResourceKind.served ∧ key.Addressable
  | apply kind key body => kind ∈ ResourceKind.served ∧ key.Addressable ∧ body.key? = some key
  | delete kind key => kind ∈ ResourceKind.served ∧ key.Addressable

end ApiCall

/-! ## Answers -/

namespace Reply

def listJson (version : String) (l : List Document) : Json :=
  .obj [("metadata", .obj [("resourceVersion", .str version)]),
    ("items", .arr (l.map Document.json))]

def doneJson : Json :=
  .obj [("kind", .str "Status"), ("apiVersion", .str "v1"), ("status", .str "Success")]

/-- Whether a response gives a reply. -/
def GivenBy (r : Response) : Reply → Prop
  | .document d => r.json = .ok d.json
  | .documents l => ∃ version, r.json = .ok (listJson version l)
  | .done => r.json = .ok doneJson
  | .refused reason => ∃ refusal, r.json = .error (.refused refusal) ∧ refusal.reason = reason

end Reply

/-- **What comes back over a transport is what the cluster answers**, and what it does to its
documents is what the calls do, as nobody else is at work. -/
structure Serves {σ : Type} (t : Transport σ) (documents : σ → Documents) : Prop where
  reply : ∀ call : ApiCall, call.WellFormed → ∀ s,
    (call.run (documents s)).1.GivenBy (t call.request s).1
  documents : ∀ call : ApiCall, call.WellFormed → ∀ s,
    documents (t call.request s).2 = (call.run (documents s)).2

end NodeDeploy
