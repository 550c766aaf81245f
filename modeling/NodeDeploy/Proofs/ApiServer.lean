import NodeDeploy.Proofs.Patches

/-! # A cluster that serves one client

The interface of a cluster whose state is nothing but its documents. A path is taken apart at its
slashes, which gives a kind, a namespace, and perhaps a name and a part of the object; what is asked
for is then a call. The reply to a call goes back as text, with a code.

* `ApiCall.ofRequest?` reads the call off a request.
* `ApiCall.ofRequest?_request`: it reads a request as the call that it was sent for.
* `ApiServer.serves`: what comes back over the transport of such a cluster is what it answers.
-/

namespace NodeDeploy

/-! ## Paths -/

def segments (path : String) : List String := (path.toList.splitOn '/').map String.ofList

theorem segments_append (a b : String) : segments (a ++ "/" ++ b) = segments a ++ segments b := by
  have hpath : (a ++ "/" ++ b).toList = a.toList ++ '/' :: b.toList := by
    simp [String.toList_append]
  rw [segments, hpath, List.splitOn_append_cons_self, List.map_append]
  rfl

theorem IsSegment.segments_eq {s : String} (h : IsSegment s) : segments s = [s] := by
  rw [segments, List.splitOn_eq_singleton h.noSlash, List.map_singleton, String.ofList_toList]

/-- Where a path leads: to the objects of a kind in a namespace, and to what is asked for there. -/
structure Route where
  kind : ResourceKind
  ns : String
  rest : List String
  deriving DecidableEq, Repr

namespace Route

def kind? (group version plural : String) : Option ResourceKind :=
  ResourceKind.served.find? fun k => k.group = group ∧ k.version = version ∧ k.plural = plural

def ofSegments? : List String → Option Route
  | "" :: "api" :: version :: "namespaces" :: ns :: plural :: rest =>
    (kind? "" version plural).map fun k => ⟨k, ns, rest⟩
  | "" :: "apis" :: group :: version :: "namespaces" :: ns :: plural :: rest =>
    (kind? group version plural).map fun k => ⟨k, ns, rest⟩
  | _ => none

/-- A list is found by its path, and so is whatever is behind it. -/
theorem ofSegments?_listPath {k : ResourceKind} (hk : k ∈ ResourceKind.served) {ns : String}
    (h : IsSegment ns) (rest : List String) :
    ofSegments? (segments (k.listPath ns) ++ rest) = some ⟨k, ns, rest⟩ := by
  simp only [ResourceKind.served, List.mem_cons, List.not_mem_nil, or_false] at hk
  have hpath : segments (k.listPath ns) =
      segments ((if k.group.isEmpty then "/api/" else "/apis/") ++ k.apiVersion ++ "/namespaces") ++
        [ns] ++ segments k.plural := by
    rw [← h.segments_eq, ← segments_append, ← segments_append]
    simp only [ResourceKind.listPath, String.append_assoc]
    rfl
  rw [hpath]
  rcases hk with rfl | rfl | rfl | rfl | rfl | rfl <;> rfl

theorem ofSegments?_objectPath {k : ResourceKind} (hk : k ∈ ResourceKind.served) {key : ObjectKey}
    (h : key.Addressable) :
    ofSegments? (segments (k.objectPath key)) = some ⟨k, key.ns, [key.name]⟩ := by
  rw [ResourceKind.objectPath, segments_append, h.name.segments_eq]
  exact ofSegments?_listPath hk h.ns _

theorem ofSegments?_status {k : ResourceKind} (hk : k ∈ ResourceKind.served) {key : ObjectKey}
    (h : key.Addressable) : ofSegments? (segments (k.objectPath key ++ "/status")) =
      some ⟨k, key.ns, [key.name, "status"]⟩ := by
  have hstatus : segments (k.objectPath key ++ "/status") =
      segments (k.listPath key.ns) ++ [key.name, "status"] := by
    rw [show k.objectPath key ++ "/status" = k.objectPath key ++ "/" ++ "status" by
      rw [String.append_assoc]; rfl, segments_append, ResourceKind.objectPath, segments_append,
      h.name.segments_eq, List.append_assoc]
    rfl
  rw [hstatus]
  exact ofSegments?_listPath hk h.ns _

end Route

/-! ## Requests -/

/-- Takes an object as the cluster keeps it, if it can be put into text. -/
def Document.ofJson? : Json → Option Document
  | .obj members => if h : Json.MembersPlain members then some ⟨members, h⟩ else none
  | _ => none

@[simp] theorem Document.ofJson?_json (d : Document) : ofJson? d.json = some d := dif_pos d.plain

namespace ApiCall

def ofRequest? (r : Request) : Option ApiCall := do
  let route ← Route.ofSegments? (segments r.target.path)
  match r.method, r.contentType, route.rest with
  | .get, _, [] => some (.list route.kind route.ns)
  | .get, _, [name] => some (.get route.kind ⟨route.ns, name⟩)
  | .post, _, [] =>
    let d ← r.body.bind Document.ofJson?
    let key ← d.key?
    if key.ns = route.ns then some (.create route.kind key d) else none
  | .patch, some "application/merge-patch+json", [name] =>
    let change ← r.body.bind Document.ofJson?
    some (.merge route.kind ⟨route.ns, name⟩ change)
  | .patch, some "application/merge-patch+json", [name, "status"] =>
    let change ← r.body.bind Document.ofJson?
    some (.mergeStatus route.kind ⟨route.ns, name⟩ change)
  | .patch, some "application/apply-patch+yaml", [name] =>
    let d ← r.body.bind Document.ofJson?
    if d.key? = some ⟨route.ns, name⟩ then some (.apply route.kind ⟨route.ns, name⟩ d) else none
  | .delete, _, [name] => some (.delete route.kind ⟨route.ns, name⟩)
  | _, _, _ => none

/-- **A request is read as the call that it was sent for.** -/
theorem ofRequest?_request {call : ApiCall} (h : call.WellFormed) :
    ofRequest? call.request = some call := by
  cases call with
  | get kind key =>
    simp [ofRequest?, request, Request.get, Route.ofSegments?_objectPath h.1 h.2]
  | list kind ns =>
    have hroute := Route.ofSegments?_listPath h.1 h.2 []
    rw [List.append_nil] at hroute
    simp [ofRequest?, request, Request.get, hroute]
  | create kind key body =>
    obtain ⟨hkind, hkey, hbody⟩ := h
    have hroute := Route.ofSegments?_listPath hkind hkey.ns []
    rw [List.append_nil] at hroute
    simp [ofRequest?, request, Request.create, hroute, hbody]
  | merge kind key change =>
    simp [ofRequest?, request, Request.mergePatch, Route.ofSegments?_objectPath h.1 h.2]
  | mergeStatus kind key change =>
    simp [ofRequest?, request, Request.mergePatch, Route.ofSegments?_status h.1 h.2]
  | apply kind key body =>
    obtain ⟨hkind, hkey, hbody⟩ := h
    simp [ofRequest?, request, Request.apply, Route.ofSegments?_objectPath hkind hkey, hbody]
  | delete kind key =>
    simp [ofRequest?, request, Request.delete, Route.ofSegments?_objectPath h.1 h.2]

end ApiCall

/-! ## Responses -/

namespace Reply

def statusCode : String → Nat
  | "NotFound" => 404
  | "AlreadyExists" => 409
  | _ => 400

def refusalJson (reason : String) : Json :=
  .obj [("kind", .str "Status"), ("apiVersion", .str "v1"), ("status", .str "Failure"),
    ("message", .str reason), ("reason", .str reason), ("code", .nat (statusCode reason))]

def response : Reply → Response
  | .document d => ⟨200, d.json.text⟩
  | .documents l => ⟨200, (listJson "" l).text⟩
  | .done => ⟨200, doneJson.text⟩
  | .refused reason => ⟨statusCode reason, (refusalJson reason).text⟩

theorem statusCode_cases (reason : String) : statusCode reason ∈ [400, 404, 409] := by
  unfold statusCode
  split <;> decide

theorem plain_refusalJson (reason : String) : (refusalJson reason).Plain := by
  have hcode : statusCode reason ≤ 409 := by
    have h := statusCode_cases reason
    simp only [List.mem_cons, List.not_mem_nil, or_false] at h
    omega
  have hplain : (Json.nat (statusCode reason)).Plain := ⟨by omega, by omega⟩
  exact ⟨trivial, trivial, trivial, trivial, trivial, hplain, trivial⟩

theorem plain_listJson (version : String) (l : List Document) : (listJson version l).Plain :=
  ⟨⟨trivial, trivial⟩, Json.itemsPlain_map fun d _ => d.plain, trivial⟩

/-- The reason of a refusal is read off what is said of it. -/
theorem readRefusal?_refusalJson (reason : String) :
    ∃ refusal, Response.readRefusal? (refusalJson reason) = some refusal ∧
      refusal.reason = reason := by
  have hcode : ∃ n, Json.readNat 0xffff (.nat (statusCode reason)) = some n := by
    have h := statusCode_cases reason
    simp only [List.mem_cons, List.not_mem_nil, or_false] at h
    rcases h with h | h | h <;> rw [h] <;> exact ⟨_, rfl⟩
  obtain ⟨n, hn⟩ := hcode
  simp [Response.readRefusal?, refusalJson, Json.readRecord, Json.valuesOf, Json.required,
    Json.defaulted, Json.readLast, Json.readString, hn]

/-- **A reply is given by its code and text.** -/
theorem givenBy_response (reply : Reply) : reply.GivenBy reply.response := by
  cases reply with
  | document d =>
    simp [GivenBy, response, Response.json, Response.refuses, Json.parse?_text d.plain_json]
  | documents l =>
    exact ⟨"", by
      simp [response, Response.json, Response.refuses, Json.parse?_text (plain_listJson "" l)]⟩
  | done =>
    have hplain : doneJson.Plain := by decide
    simp [GivenBy, response, Response.json, Response.refuses, Json.parse?_text hplain]
  | refused reason =>
    obtain ⟨refusal, hread, hreason⟩ := readRefusal?_refusalJson reason
    have hrefuses : (response (.refused reason)).refuses = true := by
      have h := statusCode_cases reason
      simp only [List.mem_cons, List.not_mem_nil, or_false] at h
      rcases h with h | h | h <;> simp [response, Response.refuses, h]
    have hrefusal : (response (.refused reason)).refusal = refusal := by
      simp [Response.refusal, response, Json.parse?_text (plain_refusalJson reason), hread]
    exact ⟨refusal, by rw [Response.json, hrefuses, hrefusal]; rfl, hreason⟩

end Reply

/-! ## The transport -/

namespace ApiServer

/-- Sends requests to a cluster that has nobody else at work on it. -/
def transport : Transport Documents := fun r ds =>
  match ApiCall.ofRequest? r with
  | some call => ((call.run ds).1.response, (call.run ds).2)
  | none => (Reply.response (.refused "BadRequest"), ds)

/-- **What comes back over the transport is what the cluster answers.** -/
theorem serves : Serves transport fun ds => ds where
  reply call h ds := by
    simp only [transport, ApiCall.ofRequest?_request h]
    exact Reply.givenBy_response _
  documents call h ds := by
    simp only [transport, ApiCall.ofRequest?_request h]

end ApiServer

end NodeDeploy
