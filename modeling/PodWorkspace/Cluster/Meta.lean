import PodWorkspace.Cluster.Shapes.Basic

/-! The metadata that every object of the cluster has, and the way in which the types of this
folder keep what they do not look into: as JSON members in their one written form, which are
carried along unchanged. -/

namespace PodWorkspace.Cluster

/-- Members of an object that are carried along unchanged. -/
abbrev Carried := List (String × Json)

abbrev Given := List (String × Document)

/-- The members of a record that are carried along. -/
def carried? (shape : List (String × Bool × Shape)) (given : Given) : Option Carried :=
  Shape.readMembers? shape given

structure ObjectKind where
  apiVersion : String
  kind : String

/-- An object of a kind that is given may leave out the members that name the kind, but must not
have others. -/
def ObjectKind.fits? (k : ObjectKind) (given : Given) : Option Unit :=
  let agrees (name value : String) : Bool :=
    (given.filter (·.1 == name)).all fun m => m.2.text? == some value
  if agrees "apiVersion" k.apiVersion && agrees "kind" k.kind then some () else none

def ObjectKind.members (k : ObjectKind) : List (String × Json) :=
  [("apiVersion", .ofText k.apiVersion), ("kind", .ofText k.kind)]

def member {α : Type} (name : String) (write : α → Json) (value : Option α) :
    List (String × Json) :=
  Json.memberIfSome name write value

def listJson {α : Type} (write : α → Json) (items : List α) : Json :=
  .list (items.map write)

def textMapJson (d : Dict String) : Json := .ofDict Json.ofText d

def textMap? (d : Document) : Option (Dict String) := d.dictOf? Document.text?

def texts? (d : Document) : Option (List String) := d.listOf? Document.text?

structure ObjectMeta where
  name : Option String := none
  «namespace» : Option String := none
  labels : Option (Dict String) := none
  annotations : Option (Dict String) := none
  uid : Option String := none
  creationTimestamp : Option Timestamp := none
  deletionTimestamp : Option Timestamp := none
  carried : Carried := []
  deriving Inhabited

namespace ObjectMeta

def label? (m : ObjectMeta) (key : String) : Option String :=
  m.labels.bind (·.get? key)

def annotation? (m : ObjectMeta) (key : String) : Option String :=
  m.annotations.bind (·.get? key)

def toJson (m : ObjectMeta) : Json :=
  .ofMembers <|
    member "annotations" textMapJson m.annotations ++
    member "creationTimestamp" (fun t => .ofText t.text) m.creationTimestamp ++
    member "deletionTimestamp" (fun t => .ofText t.text) m.deletionTimestamp ++
    member "labels" textMapJson m.labels ++
    member "name" .ofText m.name ++
    member "namespace" .ofText m.namespace ++
    member "uid" .ofText m.uid ++
    m.carried

def ofDocument? (d : Document) : Option ObjectMeta := do
  let given ← d.members?
  return {
    name := ← Document.optional? "name" Document.text? given
    «namespace» := ← Document.optional? "namespace" Document.text? given
    labels := ← Document.optional? "labels" textMap? given
    annotations := ← Document.optional? "annotations" textMap? given
    uid := ← Document.optional? "uid" Document.text? given
    creationTimestamp := ← Document.optional? "creationTimestamp" Document.time? given
    deletionTimestamp := ← Document.optional? "deletionTimestamp" Document.time? given
    carried := ← carried? Shapes.carriedMeta given }

/-- The metadata among the members of an object, which may leave it out. -/
def among? (given : Given) : Option ObjectMeta := do
  return (← Document.optional? "metadata" ofDocument? given).getD {}

end ObjectMeta

end PodWorkspace.Cluster
