import PodWorkspace.Failure
import PodWorkspace.Json.Reader
import PodWorkspace.Json.Writer
import PodWorkspace.Spec.Mount
import PodWorkspace.Text.Split

/-! What a workspace container should look like, and the record of it that the volume claim of the
workspace carries, so that the pod can be built again without the caller. -/

namespace PodWorkspace

structure RunSpec where
  uid : String := ""
  user : String := ""
  image : String := ""
  entrypoint : String := ""
  cmd : List String := []
  env : Dict String := ∅
  capAdd : List String := []
  securityOpt : List String := []
  /-- Labels of the container as `key=value` entries. -/
  labels : List String := []
  privileged : Option Bool := none
  resources : Option String := none
  workspaceMount : Option Mount := none
  mounts : List Mount := []
  deriving DecidableEq, Inhabited

namespace RunSpec

/-- The key and the value of a label entry, which is empty without an equals sign. -/
def labelEntry (entry : String) : String × String :=
  (Text.cut '=' entry).getD (entry, "")

/-- The labels as a map, in which the last entry with a key counts. -/
def labelMap (s : RunSpec) : Dict String :=
  .ofList (s.labels.map labelEntry)

def fields : List Json.Field :=
  ["uid", "user", "image", "entrypoint", "cmd", "env", "capAdd", "securityOpt", "labels",
    "privileged", "resources", "workspaceMount", "mounts"].map .plain

def toJson (s : RunSpec) : Json :=
  .ofMembers <|
    [("uid", Json.ofText s.uid), ("user", .ofText s.user), ("image", .ofText s.image),
      ("entrypoint", .ofText s.entrypoint), ("cmd", .ofTexts s.cmd),
      ("env", .ofDict Json.ofText s.env), ("capAdd", .ofTexts s.capAdd),
      ("securityOpt", .ofTexts s.securityOpt), ("labels", .ofTexts s.labels)] ++
    Json.memberIfSome "privileged" Json.bool s.privileged ++
    Json.memberIfSome "resources" Json.ofText s.resources ++
    Json.memberIfSome "workspaceMount" Mount.toJson s.workspaceMount ++
    [("mounts", .list (s.mounts.map Mount.toJson))]

def ofJson? (v : Json) : Option RunSpec := do
  let r ← Json.record? fields v
  let word (name : String) : Option String := r.withDefault? name Json.text? ""
  let words (name : String) : Option (List String) :=
    r.withDefault? name (Json.list? Json.text?) []
  return {
    uid := ← word "uid"
    user := ← word "user"
    image := ← word "image"
    entrypoint := ← word "entrypoint"
    cmd := ← words "cmd"
    env := ← r.withDefault? "env" (Json.dict? Json.text?) ∅
    capAdd := ← words "capAdd"
    securityOpt := ← words "securityOpt"
    labels := ← words "labels"
    privileged := ← r.withDefault? "privileged" (Json.optional? Json.bool?) none
    resources := ← r.withDefault? "resources" (Json.optional? Json.text?) none
    workspaceMount := ← r.withDefault? "workspaceMount" (Json.optional? Mount.ofJson?) none
    mounts := ← r.withDefault? "mounts" (Json.list? Mount.ofJson?) [] }

def parse (raw : String) : Except Failure RunSpec :=
  match (Json.read? raw).bind ofJson? with
  | some s => .ok s
  | none => .error (.undecodable "RunSpecification")

end RunSpec

/-- What the volume claim of a workspace says about it. -/
structure WorkspaceRecord where
  workspaceId : String
  spec : RunSpec
  deriving DecidableEq, Inhabited

namespace WorkspaceRecord

/-- The fields of the record, with the names that older claims use. -/
def fields : List Json.Field := [⟨"workspaceId", ["WorkspaceID"]⟩, ⟨"spec", ["Options"]⟩]

def toJson (r : WorkspaceRecord) : Json :=
  .ofMembers [("workspaceId", .ofText r.workspaceId), ("spec", r.spec.toJson)]

def ofJson? (v : Json) : Option WorkspaceRecord := do
  let r ← Json.record? fields v
  return {
    workspaceId := ← r.required? "workspaceId" Json.text?
    spec := ← r.required? "spec" RunSpec.ofJson? }

def annotation (r : WorkspaceRecord) : String :=
  r.toJson.render

def ofAnnotation (raw : String) : Except Failure WorkspaceRecord :=
  match (Json.read? raw).bind ofJson? with
  | some r => .ok r
  | none => .error (.undecodable "ContainerInfo")

end WorkspaceRecord

end PodWorkspace
