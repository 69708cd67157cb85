import PodWorkspace.Cluster.Meta
import PodWorkspace.Text.Base64

/-! Objects that give a pod access to registries and to the cluster: secrets, service accounts and
role bindings; and the namespaces in which all of them live. -/

namespace PodWorkspace.Cluster

structure Secret where
  metadata : ObjectMeta := {}
  type : Option String := none
  data : Option (Dict Text.Bytes) := none
  stringData : Option (Dict String) := none
  immutable : Option Bool := none
  deriving Inhabited

namespace Secret

def kind : ObjectKind := ⟨"v1", "Secret"⟩

def toJson (s : Secret) : Json :=
  .ofMembers <|
    kind.members ++
    member "data" (Json.ofDict fun b => .ofText (Text.Base64.encode b)) s.data ++
    member "immutable" .bool s.immutable ++
    [("metadata", s.metadata.toJson)] ++
    member "stringData" textMapJson s.stringData ++
    member "type" .ofText s.type

def ofDocument? (d : Document) : Option Secret := do
  let given ← d.members?
  kind.fits? given
  return {
    metadata := ← ObjectMeta.among? given
    type := ← Document.optional? "type" Document.text? given
    data := ← Document.optional? "data" (Document.dictOf? Document.bytes?) given
    stringData := ← Document.optional? "stringData" textMap? given
    immutable := ← Document.optional? "immutable" Document.bool? given }

/-- The name, or the empty text. -/
def name (s : Secret) : String := s.metadata.name.getD ""

end Secret

structure ServiceAccount where
  metadata : ObjectMeta := {}
  carried : Carried := []
  deriving Inhabited

namespace ServiceAccount

def kind : ObjectKind := ⟨"v1", "ServiceAccount"⟩

def carriedShape : List (String × Bool × Shape) :=
  [Shape.optional "automountServiceAccountToken" .bool,
    Shape.optional "imagePullSecrets" (.list Shapes.localReference),
    Shape.optional "secrets" (.list (.record [
      Shape.optional "apiVersion" .text, Shape.optional "fieldPath" .text, Shape.optional "kind" .text,
      Shape.optional "name" .text, Shape.optional "namespace" .text, Shape.optional "resourceVersion" .text,
      Shape.optional "uid" .text]))]

def toJson (a : ServiceAccount) : Json :=
  .ofMembers <| kind.members ++ [("metadata", a.metadata.toJson)] ++ a.carried

def ofDocument? (d : Document) : Option ServiceAccount := do
  let given ← d.members?
  kind.fits? given
  return { metadata := ← ObjectMeta.among? given, carried := ← carried? carriedShape given }

/-- The name, or the empty text. -/
def name (a : ServiceAccount) : String := a.metadata.name.getD ""

end ServiceAccount

structure RoleRef where
  apiGroup : String := ""
  kind : String := ""
  name : String := ""
  deriving DecidableEq, Inhabited

structure Subject where
  kind : String := ""
  name : String := ""
  «namespace» : Option String := none
  apiGroup : Option String := none
  deriving DecidableEq, Inhabited

structure RoleBinding where
  metadata : ObjectMeta := {}
  roleRef : RoleRef := {}
  subjects : Option (List Subject) := none
  deriving Inhabited

namespace RoleBinding

def kind : ObjectKind := ⟨"rbac.authorization.k8s.io/v1", "RoleBinding"⟩

def toJson (b : RoleBinding) : Json :=
  let subject (s : Subject) : Json := .ofMembers <|
    member "apiGroup" .ofText s.apiGroup ++
    [("kind", .ofText s.kind), ("name", .ofText s.name)] ++
    member "namespace" .ofText s.namespace
  .ofMembers <|
    kind.members ++
    [("metadata", b.metadata.toJson),
      ("roleRef", .ofMembers [("apiGroup", .ofText b.roleRef.apiGroup),
        ("kind", .ofText b.roleRef.kind), ("name", .ofText b.roleRef.name)])] ++
    member "subjects" (listJson subject) b.subjects

def ofDocument? (d : Document) : Option RoleBinding := do
  let given ← d.members?
  kind.fits? given
  let roleRef? (d : Document) : Option RoleRef := do
    let given ← d.members?
    return {
      apiGroup := (← Document.optional? "apiGroup" Document.text? given).getD ""
      kind := (← Document.optional? "kind" Document.text? given).getD ""
      name := (← Document.optional? "name" Document.text? given).getD "" }
  let subject? (d : Document) : Option Subject := do
    let given ← d.members?
    return {
      kind := (← Document.optional? "kind" Document.text? given).getD ""
      name := (← Document.optional? "name" Document.text? given).getD ""
      «namespace» := ← Document.optional? "namespace" Document.text? given
      apiGroup := ← Document.optional? "apiGroup" Document.text? given }
  return {
    metadata := ← ObjectMeta.among? given
    roleRef := (← Document.optional? "roleRef" roleRef? given).getD {}
    subjects := ← Document.optional? "subjects" (Document.listOf? subject?) given }

/-- The name, or the empty text. -/
def name (b : RoleBinding) : String := b.metadata.name.getD ""

end RoleBinding

structure Namespace where
  metadata : ObjectMeta := {}
  carried : Carried := []
  deriving Inhabited

namespace Namespace

def kind : ObjectKind := ⟨"v1", "Namespace"⟩

def named (name : String) : Namespace := { metadata := { name := some name } }

def carriedShape : List (String × Bool × Shape) :=
  [Shape.optional "spec" (.record [Shape.optional "finalizers" Shapes.texts]),
    Shape.optional "status" (.record [
      Shape.optional "conditions" (.list (.record [
        Shape.optional "lastTransitionTime" .time, Shape.optional "message" .text,
        Shape.optional "reason" .text, Shape.required "status" .text, Shape.required "type" .text])),
      Shape.optional "phase" .text])]

def toJson (n : Namespace) : Json :=
  .ofMembers <| kind.members ++ [("metadata", n.metadata.toJson)] ++ n.carried

def ofDocument? (d : Document) : Option Namespace := do
  let given ← d.members?
  kind.fits? given
  return { metadata := ← ObjectMeta.among? given, carried := ← carried? carriedShape given }

end Namespace

end PodWorkspace.Cluster
