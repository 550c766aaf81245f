import NodeDeploy.Resource.Metadata
import NodeDeploy.Text.Base64
import NodeDeploy.Text.Utf8

/-! # Secrets

A secret holds bytes under keys; they travel in base64. The text of an entry is its bytes read as
UTF-8, with replacement characters for what is none.
-/

namespace NodeDeploy

def ResourceKind.secret : ResourceKind := ⟨"", "v1", "Secret", "secrets"⟩

structure Secret where
  metadata : Metadata
  data : Option (Dict String (List UInt8)) := none
  /-- Texts that a writer may give in place of bytes; reading never looks at them. -/
  stringData : Option (Dict String String) := none
  type : Option String := none
  deriving DecidableEq, Repr, Inhabited

namespace Secret

def text? (s : Secret) (key : String) : Option String :=
  (s.data.bind fun d => d.find? key).map stringOfBytes

def bytesJson (bytes : List UInt8) : Json := .str (String.ofList (Base64.encode bytes))

/-- Reads bytes; null has none. -/
def readBytes : Json → Option (List UInt8)
  | .null => some []
  | .str s => Base64.decode? s.toList
  | _ => none

def toJson (s : Secret) : Json := .record <|
  ResourceKind.secret.typeMembers ++ [
    ("data", s.data.map fun d => .ofDict bytesJson d),
    ("metadata", some s.metadata.toJson),
    ("stringData", s.stringData.map Json.ofStrings),
    ("type", s.type.map .str)]

def ofJson? (j : Json) : Option Secret := do
  let m ← j.readObject
  guard (ResourceKind.secret.admits m)
  some {
    metadata := ← Json.lenient m "metadata" Metadata.ofJson? {}
    data := ← Json.optional m "data" (Json.readDict readBytes)
    stringData := ← Json.optional m "stringData" (Json.readDict Json.readString)
    type := ← Json.optional m "type" Json.readString }

end Secret

end NodeDeploy
