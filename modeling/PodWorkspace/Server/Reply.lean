import PodWorkspace.Document.Basic
import PodWorkspace.Json.Reader
import PodWorkspace.Json.Record
import PodWorkspace.Server.Message
import PodWorkspace.Text.Quoted

/-! Reading the replies of the API server: a refusal with the code, the reason and the message of
the server, or the object that was asked for. -/

namespace PodWorkspace.Server

def code? (v : Json) : Option Int := v.int?.filter fun n => 0 ≤ n && n < 65536

/-- The refusal that a body spells, when it is the record of one. -/
def refusalOf? (body : String) : Option ServerFault := do
  let v ← Json.read? body
  let r ← Json.record? (["status", "message", "reason", "code"].map .plain) v
  let _ ← r.required? "status" Json.text?
  let message ← r.withDefault? "message" Json.text? ""
  let reason ← r.withDefault? "reason" Json.text? ""
  let code ← r.required? "code" code?
  some (.refused code reason message)

namespace Reply

/-- Whether the server refused the message. -/
def isRefusal (r : Reply) : Bool := 400 ≤ r.status && r.status < 600

/-- The refusal in a reply. A body that is no record of one is the message itself. -/
def refusal (r : Reply) : ServerFault :=
  (refusalOf? r.body).getD
    (.refused r.status "Failed to parse error data" (Text.quoted r.body))

def text (r : Reply) : Except ServerFault String :=
  if r.isRefusal then .error r.refusal else .ok r.body

def value {α : Type} (read? : Json → Option α) (r : Reply) : Except ServerFault α := do
  match (Json.read? (← r.text)).bind read? with
  | some x => return x
  | none => .error .undecodable

def object {α : Type} (read? : Document → Option α) (r : Reply) : Except ServerFault α :=
  r.value fun v => read? (.ofJson v)

def deletionReport? (v : Json) : Option Unit := do
  let r ← Json.record? (["status", "code", "message", "reason", "details"].map .plain) v
  let status? (v : Json) : Option String := v.text?.filter fun s => s == "Success" || s == "Failure"
  let details? (v : Json) : Option Unit := do
    let _ ← Json.record? (["name", "group", "kind", "uid", "causes", "retryAfterSeconds"].map .plain) v
  let _ ← r.withDefault? "status" (Json.optional? status?) none
  let _ ← r.withDefault? "code" code? 0
  let _ ← r.withDefault? "message" Json.text? ""
  let _ ← r.withDefault? "reason" Json.text? ""
  let _ ← r.withDefault? "details" (Json.optional? details?) none

/-- What a deletion answers: a report, or the object that is being deleted. -/
def deleted {α : Type} (read? : Document → Option α) (r : Reply) : Except ServerFault Unit :=
  r.value fun v =>
    if ((v.get? "kind").bind Json.text?) == some "Status" then deletionReport? v
    else (read? (.ofJson v)).map fun _ => ()

end Reply

/-- Whether a fault says that an object is not there, by its reason. -/
def lacksObject : ServerFault → Bool
  | .refused _ reason _ => reason == "NotFound"
  | _ => false

def hasCode (code : Int) : ServerFault → Bool
  | .refused c _ _ => c == code
  | _ => false

end PodWorkspace.Server
