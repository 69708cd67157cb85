import PodWorkspace.Cluster.Meta
import PodWorkspace.Cluster.Shapes.Container

/-! Containers of a pod. -/

namespace PodWorkspace.Cluster

/-- The amounts of resources that a container asks for, and those that it may use. -/
structure Resources where
  requests : Option (Dict String) := none
  limits : Option (Dict String) := none
  carried : Carried := []
  deriving Inhabited

def Resources.carriedShape : List (String × Bool × Shape) :=
  [Shape.optional "claims" (.list (.record [Shape.required "name" .text, Shape.optional "request" .text]))]

def Resources.toJson (r : Resources) : Json :=
  .ofMembers <|
    r.carried ++ member "limits" textMapJson r.limits ++ member "requests" textMapJson r.requests

def Resources.ofDocument? (d : Document) : Option Resources := do
  let given ← d.members?
  return {
    requests := ← Document.optional? "requests" textMap? given
    limits := ← Document.optional? "limits" textMap? given
    carried := ← carried? carriedShape given }

structure EnvVar where
  name : String
  value : Option String := none
  carried : Carried := []
  deriving Inhabited

def EnvVar.toJson (e : EnvVar) : Json :=
  .ofMembers <| [("name", Json.ofText e.name)] ++ member "value" .ofText e.value ++ e.carried

def EnvVar.ofDocument? (d : Document) : Option EnvVar := do
  let given ← d.members?
  return {
    name := (← Document.optional? "name" Document.text? given).getD ""
    value := ← Document.optional? "value" Document.text? given
    carried := ← carried? [Shape.optional "valueFrom" Shapes.envVarSource] given }

structure VolumeMount where
  name : String
  mountPath : String
  subPath : Option String := none
  carried : Carried := []
  deriving Inhabited

def VolumeMount.toJson (m : VolumeMount) : Json :=
  .ofMembers <|
    [("mountPath", Json.ofText m.mountPath), ("name", .ofText m.name)] ++
    member "subPath" .ofText m.subPath ++ m.carried

def VolumeMount.ofDocument? (d : Document) : Option VolumeMount := do
  let given ← d.members?
  return {
    name := (← Document.optional? "name" Document.text? given).getD ""
    mountPath := (← Document.optional? "mountPath" Document.text? given).getD ""
    subPath := ← Document.optional? "subPath" Document.text? given
    carried := ← carried? Shapes.carriedVolumeMount given }

/-- Linux capabilities that a container gets or loses. -/
structure Capabilities where
  add : Option (List String) := none
  drop : Option (List String) := none
  deriving DecidableEq, Inhabited

def Capabilities.toJson (c : Capabilities) : Json :=
  .ofMembers <| member "add" .ofTexts c.add ++ member "drop" .ofTexts c.drop

def Capabilities.ofDocument? (d : Document) : Option Capabilities := do
  let given ← d.members?
  return {
    add := ← Document.optional? "add" texts? given
    drop := ← Document.optional? "drop" texts? given }

structure SecurityContext where
  capabilities : Option Capabilities := none
  privileged : Option Bool := none
  runAsUser : Option Int := none
  runAsGroup : Option Int := none
  runAsNonRoot : Option Bool := none
  carried : Carried := []
  deriving Inhabited

def SecurityContext.toJson (s : SecurityContext) : Json :=
  .ofMembers <|
    member "capabilities" Capabilities.toJson s.capabilities ++
    member "privileged" .bool s.privileged ++
    member "runAsGroup" .ofInt s.runAsGroup ++
    member "runAsNonRoot" .bool s.runAsNonRoot ++
    member "runAsUser" .ofInt s.runAsUser ++
    s.carried

def SecurityContext.ofDocument? (d : Document) : Option SecurityContext := do
  let given ← d.members?
  return {
    capabilities := ← Document.optional? "capabilities" Capabilities.ofDocument? given
    privileged := ← Document.optional? "privileged" Document.bool? given
    runAsUser := ← Document.optional? "runAsUser" (Document.intOfWidth? 64) given
    runAsGroup := ← Document.optional? "runAsGroup" (Document.intOfWidth? 64) given
    runAsNonRoot := ← Document.optional? "runAsNonRoot" Document.bool? given
    carried := ← carried? Shapes.carriedSecurityContext given }

/-- A container of a pod. Sources of several variables and ports are carried along as JSON. -/
structure Container where
  name : String
  image : Option String := none
  command : Option (List String) := none
  args : Option (List String) := none
  env : Option (List EnvVar) := none
  envFrom : Option (List Json) := none
  ports : Option (List Json) := none
  imagePullPolicy : Option String := none
  resources : Option Resources := none
  volumeMounts : Option (List VolumeMount) := none
  securityContext : Option SecurityContext := none
  restartPolicy : Option String := none
  carried : Carried := []
  deriving Inhabited

def Container.toJson (c : Container) : Json :=
  .ofMembers <|
    member "args" .ofTexts c.args ++
    member "command" .ofTexts c.command ++
    member "env" (listJson EnvVar.toJson) c.env ++
    member "envFrom" .list c.envFrom ++
    member "image" .ofText c.image ++
    member "imagePullPolicy" .ofText c.imagePullPolicy ++
    [("name", .ofText c.name)] ++
    member "ports" .list c.ports ++
    member "resources" Resources.toJson c.resources ++
    member "restartPolicy" .ofText c.restartPolicy ++
    member "securityContext" SecurityContext.toJson c.securityContext ++
    member "volumeMounts" (listJson VolumeMount.toJson) c.volumeMounts ++
    c.carried

def Container.ofDocument? (d : Document) : Option Container := do
  let given ← d.members?
  return {
    name := (← Document.optional? "name" Document.text? given).getD ""
    image := ← Document.optional? "image" Document.text? given
    command := ← Document.optional? "command" texts? given
    args := ← Document.optional? "args" texts? given
    env := ← Document.optional? "env" (Document.listOf? EnvVar.ofDocument?) given
    envFrom := ← Document.optional? "envFrom"
      (Document.listOf? Shapes.envFromSource.read?) given
    ports := ← Document.optional? "ports" (Document.listOf? Shapes.containerPort.read?) given
    imagePullPolicy := ← Document.optional? "imagePullPolicy" Document.text? given
    resources := ← Document.optional? "resources" Resources.ofDocument? given
    volumeMounts := ← Document.optional? "volumeMounts"
      (Document.listOf? VolumeMount.ofDocument?) given
    securityContext := ← Document.optional? "securityContext" SecurityContext.ofDocument? given
    restartPolicy := ← Document.optional? "restartPolicy" Document.text? given
    carried := ← carried? Shapes.carriedContainer given }

end PodWorkspace.Cluster
