import NodeDeploy.Cluster.Target
import NodeDeploy.Json.Parser
import NodeDeploy.Json.Printer
import NodeDeploy.Resource.Metadata
import NodeDeploy.Store.Error

/-! # Requests to the cluster

The interface of the cluster takes requests on the targets of objects and answers with a code and a
text. A code from 400 to 599 refuses the request, and its text says why.

* `Request.get`, `Request.create`, `Request.mergePatch`, `Request.apply` and `Request.delete` are
  the requests that are made;
* `Response.refusal` reads the reason of a refusal.
-/

namespace NodeDeploy

inductive Method where
  | get
  | post
  | patch
  | delete
  deriving DecidableEq, Repr, Inhabited

def Method.word : Method → String
  | .get => "GET"
  | .post => "POST"
  | .patch => "PATCH"
  | .delete => "DELETE"

structure Request where
  method : Method
  target : Target
  contentType : Option String := none
  body : Option Json := none
  deriving Inhabited

structure Response where
  code : Nat
  text : String
  deriving DecidableEq, Repr, Inhabited

abbrev Transport (σ : Type) := Request → StateM σ Response

namespace ResourceKind

def listPath (k : ResourceKind) (ns : String) : String :=
  (if k.group.isEmpty then "/api/" else "/apis/") ++ k.apiVersion ++ "/namespaces/" ++ ns ++ "/" ++
    k.plural

def objectPath (k : ResourceKind) (key : ObjectKey) : String := k.listPath key.ns ++ "/" ++ key.name

end ResourceKind

namespace Request

/-- What is asked for where changes are applied: the name under which they are, and to have one's
way. -/
def applyQuery : String := "&force=true&fieldManager=node-deployer"

def get (target : Target) : Request := { method := .get, target }

def create (target : Target) (object : Json) : Request :=
  { method := .post, target, contentType := some "application/json", body := some object }

def mergePatch (target : Target) (change : Json) : Request :=
  { method := .patch, target, contentType := some "application/merge-patch+json"
    body := some change }

/-- Makes the object at a target what it shall be, whoever else manages it. -/
def apply (target : Target) (object : Json) : Request :=
  { method := .patch, target, contentType := some "application/apply-patch+yaml"
    body := some object }

def delete (target : Target) : Request :=
  { method := .delete, target, contentType := some "application/json", body := some (.obj []) }

end Request

namespace Response

/-- The phrases of the codes that refuse a request. -/
def phrase : Nat → String
  | 400 => "Bad Request"
  | 401 => "Unauthorized"
  | 402 => "Payment Required"
  | 403 => "Forbidden"
  | 404 => "Not Found"
  | 405 => "Method Not Allowed"
  | 406 => "Not Acceptable"
  | 407 => "Proxy Authentication Required"
  | 408 => "Request Timeout"
  | 409 => "Conflict"
  | 410 => "Gone"
  | 411 => "Length Required"
  | 412 => "Precondition Failed"
  | 413 => "Payload Too Large"
  | 414 => "URI Too Long"
  | 415 => "Unsupported Media Type"
  | 416 => "Range Not Satisfiable"
  | 417 => "Expectation Failed"
  | 418 => "I'm a teapot"
  | 421 => "Misdirected Request"
  | 422 => "Unprocessable Entity"
  | 423 => "Locked"
  | 424 => "Failed Dependency"
  | 425 => "Too Early"
  | 426 => "Upgrade Required"
  | 428 => "Precondition Required"
  | 429 => "Too Many Requests"
  | 431 => "Request Header Fields Too Large"
  | 451 => "Unavailable For Legal Reasons"
  | 500 => "Internal Server Error"
  | 501 => "Not Implemented"
  | 502 => "Bad Gateway"
  | 503 => "Service Unavailable"
  | 504 => "Gateway Timeout"
  | 505 => "HTTP Version Not Supported"
  | 506 => "Variant Also Negotiates"
  | 507 => "Insufficient Storage"
  | 508 => "Loop Detected"
  | 510 => "Not Extended"
  | 511 => "Network Authentication Required"
  | _ => "<unknown status code>"

def refuses (r : Response) : Bool := 400 ≤ r.code && r.code < 600

def readRefusal? (j : Json) : Option Refusal := do
  let m ← j.readRecord ["status", "message", "reason", "code"] 4
  some {
    status := ← Json.required m "status" Json.readString
    message := ← Json.defaulted m "message" Json.readString ""
    reason := ← Json.defaulted m "reason" Json.readString ""
    code := ← Json.required m "code" (Json.readNat 0xffff) }

/-- The refusal that a text reports, or one that quotes a text which reports none. -/
def refusal (r : Response) : Refusal :=
  match (Json.parse? r.text).bind readRefusal? with
  | some refusal => refusal
  | none => {
      status := decimal r.code ++ " " ++ phrase r.code
      message := quoted r.text
      reason := "Failed to parse error data"
      code := r.code }

/-- The text as JSON, unless the request was refused. -/
def json (r : Response) : Except ClusterError Json :=
  if r.refuses then .error (.refused r.refusal)
  else
    match Json.parse? r.text with
    | some j => .ok j
    | none => .error .garbled

end Response

end NodeDeploy
