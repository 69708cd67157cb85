import PodWorkspace.Cluster.Deletion
import PodWorkspace.Server.Reply
import PodWorkspace.Server.Session

/-! How the questions to the cluster are put to its API server. Deleting an object that is not there
is no failure, and neither is creating a namespace that is there. -/

namespace PodWorkspace.Server

open Cluster

/-- The objects of one kind in a namespace: where the API has them, and what they are called. -/
structure Collection where
  api : String
  plural : String
  label : String

namespace Collection

def claims : Collection := ⟨"/api/v1", "persistentvolumeclaims", "pvc"⟩

def pods : Collection := ⟨"/api/v1", "pods", "pod"⟩

def secrets : Collection := ⟨"/api/v1", "secrets", "secret"⟩

def serviceAccounts : Collection := ⟨"/api/v1", "serviceaccounts", "serviceaccount"⟩

def roleBindings : Collection :=
  ⟨"/apis/rbac.authorization.k8s.io/v1", "rolebindings", "rolebinding"⟩

def path (c : Collection) (ns : String) : String := s!"{c.api}/namespaces/{ns}/{c.plural}"

end Collection

/-- The grace that a workspace pod gets before it is ended, in seconds. -/
def podGrace : Nat := 10

/-- The grace of a volume claim, in seconds. -/
def claimGrace : Nat := 5

def deleteOptions (grace : Option Nat) : Json :=
  .ofMembers (member "gracePeriodSeconds" .ofNat grace)

def unreachableEvent : Event := ⟨.error, "failed with error client error (Connect)", []⟩

/-- Logs that there is no connection, when there is none. -/
def noteUnreachable {α : Type} : Except ServerFault α → Talk Unit
  | .error .unreachable => .note unreachableEvent
  | _ => return ()

/-- Sends a message, if it has an address, and reads the reply. -/
def exchange {α : Type} (m : Message) (read : Reply → Except ServerFault α) :
    Talk (Except ServerFault α) :=
  if m.address.isWritable then do
    let reply : Except ServerFault Reply ← .ask (I := interface) (.exchange m)
    noteUnreachable reply
    return reply >>= read
  else return .error .unwritable

/-- The value of an answer; a fault fails the operation. -/
def settle {α : Type} (operation : String) : Except ServerFault α → Talk α
  | .ok a => .done a
  | .error fault => .fail (.ofServer operation fault)

/-- The object with a name, if it is there. -/
def find {α : Type} (ns : String) (c : Collection) (read? : Document → Option α) (name : String) :
    Talk (Option α) := do
  let operation := s!"get {c.label} {name}"
  if name.isEmpty then .fail (.ofServer operation .unnamed)
  else
    match ← exchange ⟨.get, .ofPath s!"{c.path ns}/{name}", none⟩ (Reply.object read?) with
    | .ok x => return some x
    | .error fault => if lacksObject fault then return none else .fail (.ofServer operation fault)

def create {α : Type} (ns : String) (c : Collection) (read? : Document → Option α) (name : String)
    (object : Json) : Talk Unit := do
  let answer ← exchange ⟨.post, .withQuery (c.path ns) [], some object⟩ (Reply.object read?)
  let _ ← settle s!"create {c.label} {name}" answer

/-- Deletes an object, unless it is not there. -/
def delete {α : Type} (ns : String) (c : Collection) (read? : Document → Option α) (name : String)
    (grace : Option Nat) : Talk Unit := do
  match ← exchange ⟨.delete, .withQuery s!"{c.path ns}/{name}" [], some (deleteOptions grace)⟩
      (Reply.deleted read?) with
  | .ok _ => return ()
  | .error fault =>
    if hasCode 404 fault then
      .note ⟨.trace, "Already deleted", [("kind", c.label), ("name", name)]⟩
    else .fail (.ofServer s!"delete {c.label} {name}" fault)

/-- Creates a namespace, unless it is there. -/
def createNamespace (name : String) : Talk Unit := do
  match ← exchange ⟨.post, .withQuery "/api/v1/namespaces" [], some (Namespace.named name).toJson⟩
      (Reply.object Namespace.ofDocument?) with
  | .ok _ => return ()
  | .error fault =>
    if hasCode 409 fault then return ()
    else .fail (.ofServer s!"create namespace {name}" fault)

/-- The pods in a list, which may be written as `null` when there are none. -/
def podList? (d : Document) : Option (List Pod) := do
  let given ← d.members?
  let values (name : String) : List Document := (given.filter (·.1 == name)).map (·.2)
  match values "metadata" with
  | [] => some ()
  | [metadata] => (ExecReport.metadataShape.read? metadata).map fun _ => ()
  | _ => none
  match values "items" with
  | [items] => if items.isAbsent then some [] else items.listOf? Pod.ofDocument?
  | _ => none

def listPods (ns selector : String) : Talk (List String) := do
  let answer ← exchange
    ⟨.get, .withQuery (Collection.pods.path ns) [("labelSelector", selector)], none⟩
    (Reply.object podList?)
  let pods ← settle s!"list pods {selector}" answer
  return pods.filterMap (·.metadata.name)

/-- Deletes the pods that a selector finds, without grace. -/
def forceDeletePods (ns selector : String) : Talk Unit := do
  let answer ← exchange
    ⟨.delete, .withQuery (Collection.pods.path ns) [("labelSelector", selector)],
      some (deleteOptions (some 0))⟩
    (Reply.deleted podList?)
  settle s!"delete pods {selector}" answer

def podLogs (ns pod container : String) : Talk String := do
  let answer ← exchange
    ⟨.get, .withQuery s!"{Collection.pods.path ns}/{pod}/log" [("container", container)], none⟩
    Reply.text
  settle s!"logs {pod}" answer

def execQuery (container : String) (command : List String) (hasStdin : Bool) :
    List (String × String) :=
  (if hasStdin then [("stdin", "true")] else []) ++
    [("stdout", "true"), ("stderr", "true"), ("container", container)] ++
    command.map fun word => ("command", word)

def exec (ns pod container : String) (command : List String) (stdin : Option String) :
    Talk ExecSession := do
  let address := Address.withQuery s!"{Collection.pods.path ns}/{pod}/exec"
    (execQuery container command stdin.isSome)
  let operation := s!"exec in {pod}"
  if address.isWritable then do
    let answer : Except ServerFault Session ←
      .ask (I := interface) (.openSession ⟨.get, address, none⟩ stdin)
    noteUnreachable answer
    let session ← settle operation answer
    return Session.read session pod
  else .fail (.ofServer operation .unwritable)

/-- The pod with a name, if it is there. -/
def findPod (ns name : String) : Talk (Option Pod) :=
  find ns .pods Pod.ofDocument? name

/-- What the API server says to a question about a namespace. It knows nothing about registries,
whose credentials are looked up elsewhere. -/
def answer (ns : String) (credentials : String → Logged (Option Registry.Credentials)) :
    (r : Request) → Talk r.Answer
  | .createNamespace name => createNamespace name
  | .getClaim name => find ns .claims VolumeClaim.ofDocument? name
  | .createClaim claim => create ns .claims VolumeClaim.ofDocument? claim.name claim.toJson
  | .deleteClaim name => delete ns .claims VolumeClaim.ofDocument? name (some claimGrace)
  | .getPod name => findPod ns name
  | .createPod pod => create ns .pods Pod.ofDocument? pod.name pod.toJson
  | .deletePod name => delete ns .pods Pod.ofDocument? name (some podGrace)
  | .deletePodAndWait name timeout =>
    deletePodAndWait (findPod ns name) (delete ns .pods Pod.ofDocument? name none) name timeout
  | .listPods selector => listPods ns selector
  | .forceDeletePods selector => forceDeletePods ns selector
  | .podLogs pod container => podLogs ns pod container
  | .exec pod container command stdin => exec ns pod container command stdin
  | .getSecret name => find ns .secrets Secret.ofDocument? name
  | .createSecret secret => create ns .secrets Secret.ofDocument? secret.name secret.toJson
  | .deleteSecret name => delete ns .secrets Secret.ofDocument? name none
  | .getServiceAccount name => find ns .serviceAccounts ServiceAccount.ofDocument? name
  | .createServiceAccount account =>
    create ns .serviceAccounts ServiceAccount.ofDocument? account.name account.toJson
  | .getRoleBinding name => find ns .roleBindings RoleBinding.ofDocument? name
  | .createRoleBinding binding =>
    create ns .roleBindings RoleBinding.ofDocument? binding.name binding.toJson
  | .deleteRoleBinding name => delete ns .roleBindings RoleBinding.ofDocument? name none
  | .lookUp registry => .ofLogged (credentials registry)

end PodWorkspace.Server
