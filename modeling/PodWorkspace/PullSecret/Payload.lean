import PodWorkspace.Cluster.Access
import PodWorkspace.Failure
import PodWorkspace.Json.Reader
import PodWorkspace.Json.Writer
import PodWorkspace.Manifest.Setting

/-! The content of a pull secret: a docker configuration with a token for each registry. -/

namespace PodWorkspace.PullSecret

open Cluster

/-- The token for a registry, in base64, and the address that goes with it. -/
structure TokenEntry where
  auth : String
  email : String := ""
  deriving DecidableEq, Repr, Inhabited

structure Payload where
  auths : Dict TokenEntry
  deriving DecidableEq

def secretType : String := "kubernetes.io/dockerconfigjson"

def dataKey : String := ".dockerconfigjson"

/-- The mail address in every entry that is written. -/
def noReplyEmail : String := "noreply@loft.sh"

namespace Payload

def single (registry token : String) : Payload :=
  ⟨.single registry ⟨Text.Base64.encode (Text.utf8 token), noReplyEmail⟩⟩

def toJson (p : Payload) : Json :=
  .ofMembers [("auths", .ofDict (fun e : TokenEntry =>
    .ofMembers [("auth", .ofText e.auth), ("email", .ofText e.email)]) p.auths)]

def ofJson? (v : Json) : Option Payload := do
  let entry? (v : Json) : Option TokenEntry := do
    let r ← Json.record? (["auth", "email"].map .plain) v
    return ⟨← r.required? "auth" Json.text?, ← r.withDefault? "email" Json.text? ""⟩
  let r ← Json.record? [.plain "auths"] v
  return ⟨← r.required? "auths" (Json.dict? entry?)⟩

def bytes (p : Payload) : Text.Bytes := Text.utf8 p.toJson.render

def ofBytes (raw : Text.Bytes) : Except Failure Payload :=
  match ((Text.ofUtf8? raw).bind Json.read?).bind ofJson? with
  | some p => .ok p
  | none => .error (.undecodable "DockerConfigJson")

def token (p : Payload) (address : String) : Except Failure (Option String) :=
  match p.auths.get? address with
  | none => .ok none
  | some entry =>
    match (Text.Base64.decode entry.auth).bind Text.ofUtf8? with
    | some t => .ok (some t)
    | none => .error (.undecodable "DockerConfigJson")

end Payload

def secret (name «namespace» : String) (content : Text.Bytes) : Secret where
  metadata := {
    name := some name
    «namespace» := some «namespace»
    labels := some Manifest.createdLabels }
  type := some secretType
  data := some (.single dataKey content)

/-- The content of a secret, if it has one. -/
def content? (s : Secret) : Option Text.Bytes := s.data.bind (·.get? dataKey)

end PodWorkspace.PullSecret
