import PodWorkspace.Cluster.Container
import PodWorkspace.Cluster.Shapes.Pod
import PodWorkspace.Cluster.Shapes.Volume

/-! Pods: their specification with containers, volumes and placement, and their status. -/

namespace PodWorkspace.Cluster

structure Volume where
  name : String
  /-- The name of the volume claim behind the volume, and whether it is only read. -/
  claim : Option (String × Option Bool) := none
  carried : Carried := []
  deriving Inhabited

def Volume.toJson (v : Volume) : Json :=
  .ofMembers <|
    [("name", Json.ofText v.name)] ++
    member "persistentVolumeClaim" (fun c : String × Option Bool =>
      .ofMembers ([("claimName", .ofText c.1)] ++ member "readOnly" .bool c.2)) v.claim ++
    v.carried

def Volume.ofDocument? (d : Document) : Option Volume := do
  let given ← d.members?
  let claim? (d : Document) : Option (String × Option Bool) := do
    let given ← d.members?
    return ((← Document.optional? "claimName" Document.text? given).getD "",
      ← Document.optional? "readOnly" Document.bool? given)
  return {
    name := (← Document.optional? "name" Document.text? given).getD ""
    claim := ← Document.optional? "persistentVolumeClaim" claim? given
    carried := ← carried? Shapes.carriedVolume given }

structure PodAffinity where
  /-- Terms that have to be met, as JSON. -/
  required : Option (List Json) := none
  preferred : Option Json := none
  deriving Inhabited

def PodAffinity.toJson (a : PodAffinity) : Json :=
  .ofMembers <|
    member "preferredDuringSchedulingIgnoredDuringExecution" id a.preferred ++
    member "requiredDuringSchedulingIgnoredDuringExecution" .list a.required

def PodAffinity.ofDocument? (d : Document) : Option PodAffinity := do
  let given ← d.members?
  return {
    required := ← Document.optional? "requiredDuringSchedulingIgnoredDuringExecution"
      (Document.listOf? Shapes.podAffinityTerm.read?) given
    preferred := ← Document.optional? "preferredDuringSchedulingIgnoredDuringExecution"
      Shapes.weightedPodAffinityTerms.read? given }

structure Affinity where
  podAffinity : Option PodAffinity := none
  carried : Carried := []
  deriving Inhabited

def Affinity.toJson (a : Affinity) : Json :=
  .ofMembers <| member "podAffinity" PodAffinity.toJson a.podAffinity ++ a.carried

def Affinity.ofDocument? (d : Document) : Option Affinity := do
  let given ← d.members?
  return {
    podAffinity := ← Document.optional? "podAffinity" PodAffinity.ofDocument? given
    carried := ← carried? Shapes.carriedAffinity given }

structure PodSpec where
  containers : List Container := []
  initContainers : Option (List Container) := none
  volumes : Option (List Volume) := none
  nodeSelector : Option (Dict String) := none
  serviceAccountName : Option String := none
  /-- The names of the pull secrets. -/
  imagePullSecrets : Option (List String) := none
  affinity : Option Affinity := none
  restartPolicy : Option String := none
  carried : Carried := []
  deriving Inhabited

def referenceJson (name : String) : Json := .ofMembers [("name", .ofText name)]

def reference? (d : Document) : Option String := do
  return (← Document.optional? "name" Document.text? (← d.members?)).getD ""

def PodSpec.toJson (s : PodSpec) : Json :=
  .ofMembers <|
    member "affinity" Affinity.toJson s.affinity ++
    [("containers", listJson Container.toJson s.containers)] ++
    member "imagePullSecrets" (listJson referenceJson) s.imagePullSecrets ++
    member "initContainers" (listJson Container.toJson) s.initContainers ++
    member "nodeSelector" textMapJson s.nodeSelector ++
    member "restartPolicy" .ofText s.restartPolicy ++
    member "serviceAccountName" .ofText s.serviceAccountName ++
    member "volumes" (listJson Volume.toJson) s.volumes ++
    s.carried

def PodSpec.ofDocument? (d : Document) : Option PodSpec := do
  let given ← d.members?
  return {
    containers := (← Document.optional? "containers"
      (Document.listOf? Container.ofDocument?) given).getD []
    initContainers := ← Document.optional? "initContainers"
      (Document.listOf? Container.ofDocument?) given
    volumes := ← Document.optional? "volumes" (Document.listOf? Volume.ofDocument?) given
    nodeSelector := ← Document.optional? "nodeSelector" textMap? given
    serviceAccountName := ← Document.optional? "serviceAccountName" Document.text? given
    imagePullSecrets := ← Document.optional? "imagePullSecrets"
      (Document.listOf? reference?) given
    affinity := ← Document.optional? "affinity" Affinity.ofDocument? given
    restartPolicy := ← Document.optional? "restartPolicy" Document.text? given
    carried := ← carried? Shapes.carriedPodSpec given }

/-- A container that has not started, and why. -/
structure Waiting where
  reason : Option String := none
  message : Option String := none
  deriving DecidableEq, Inhabited

structure Terminated where
  exitCode : Int := 0
  reason : Option String := none
  message : Option String := none
  carried : Carried := []
  deriving Inhabited

structure ContainerState where
  running : Option Carried := none
  terminated : Option Terminated := none
  waiting : Option Waiting := none
  deriving Inhabited

def ContainerState.toJson (s : ContainerState) : Json :=
  .ofMembers <|
    member "running" .ofMembers s.running ++
    member "terminated" (fun t : Terminated => .ofMembers <|
      [("exitCode", Json.ofInt t.exitCode)] ++ member "message" .ofText t.message ++
      member "reason" .ofText t.reason ++ t.carried) s.terminated ++
    member "waiting" (fun w : Waiting => .ofMembers <|
      member "message" .ofText w.message ++ member "reason" .ofText w.reason) s.waiting

def ContainerState.ofDocument? (d : Document) : Option ContainerState := do
  let given ← d.members?
  let running? (d : Document) : Option Carried := do
    carried? [Shape.optional "startedAt" .time] (← d.members?)
  let terminated? (d : Document) : Option Terminated := do
    let given ← d.members?
    return {
      exitCode := (← Document.optional? "exitCode" (Document.intOfWidth? 32) given).getD 0
      reason := ← Document.optional? "reason" Document.text? given
      message := ← Document.optional? "message" Document.text? given
      carried := ← carried? [Shape.optional "containerID" .text, Shape.optional "finishedAt" .time,
        Shape.optional "signal" .int32, Shape.optional "startedAt" .time] given }
  let waiting? (d : Document) : Option Waiting := do
    let given ← d.members?
    return {
      reason := ← Document.optional? "reason" Document.text? given
      message := ← Document.optional? "message" Document.text? given }
  return {
    running := ← Document.optional? "running" running? given
    terminated := ← Document.optional? "terminated" terminated? given
    waiting := ← Document.optional? "waiting" waiting? given }

structure ContainerStatus where
  name : String
  ready : Bool := false
  started : Option Bool := none
  state : Option ContainerState := none
  carried : Carried := [("image", .ofText ""), ("imageID", .ofText ""), ("restartCount", .ofInt 0)]
  deriving Inhabited

def ContainerStatus.toJson (s : ContainerStatus) : Json :=
  .ofMembers <|
    [("name", Json.ofText s.name), ("ready", .bool s.ready)] ++
    member "started" .bool s.started ++
    member "state" ContainerState.toJson s.state ++
    s.carried

def ContainerStatus.ofDocument? (d : Document) : Option ContainerStatus := do
  let given ← d.members?
  return {
    name := (← Document.optional? "name" Document.text? given).getD ""
    ready := (← Document.optional? "ready" Document.bool? given).getD false
    started := ← Document.optional? "started" Document.bool? given
    state := ← Document.optional? "state" ContainerState.ofDocument? given
    carried := ← carried? Shapes.carriedContainerStatus given }

structure PodCondition where
  type : String
  status : String
  reason : Option String := none
  message : Option String := none
  carried : Carried := []
  deriving Inhabited

def PodCondition.toJson (c : PodCondition) : Json :=
  .ofMembers <|
    member "message" .ofText c.message ++ member "reason" .ofText c.reason ++
    [("status", .ofText c.status), ("type", .ofText c.type)] ++ c.carried

def PodCondition.ofDocument? (d : Document) : Option PodCondition := do
  let given ← d.members?
  return {
    type := (← Document.optional? "type" Document.text? given).getD ""
    status := (← Document.optional? "status" Document.text? given).getD ""
    reason := ← Document.optional? "reason" Document.text? given
    message := ← Document.optional? "message" Document.text? given
    carried := ← carried? Shapes.carriedCondition given }

structure PodStatus where
  phase : Option String := none
  conditions : Option (List PodCondition) := none
  containerStatuses : Option (List ContainerStatus) := none
  initContainerStatuses : Option (List ContainerStatus) := none
  carried : Carried := []
  deriving Inhabited

def PodStatus.toJson (s : PodStatus) : Json :=
  .ofMembers <|
    member "conditions" (listJson PodCondition.toJson) s.conditions ++
    member "containerStatuses" (listJson ContainerStatus.toJson) s.containerStatuses ++
    member "initContainerStatuses" (listJson ContainerStatus.toJson) s.initContainerStatuses ++
    member "phase" .ofText s.phase ++
    s.carried

def PodStatus.ofDocument? (d : Document) : Option PodStatus := do
  let given ← d.members?
  return {
    phase := ← Document.optional? "phase" Document.text? given
    conditions := ← Document.optional? "conditions"
      (Document.listOf? PodCondition.ofDocument?) given
    containerStatuses := ← Document.optional? "containerStatuses"
      (Document.listOf? ContainerStatus.ofDocument?) given
    initContainerStatuses := ← Document.optional? "initContainerStatuses"
      (Document.listOf? ContainerStatus.ofDocument?) given
    carried := ← carried? Shapes.carriedPodStatus given }

structure Pod where
  metadata : ObjectMeta := {}
  spec : Option PodSpec := none
  status : Option PodStatus := none
  deriving Inhabited

namespace Pod

def kind : ObjectKind := ⟨"v1", "Pod"⟩

def toJson (p : Pod) : Json :=
  .ofMembers <|
    kind.members ++ [("metadata", p.metadata.toJson)] ++ member "spec" PodSpec.toJson p.spec ++
    member "status" PodStatus.toJson p.status

def ofDocument? (d : Document) : Option Pod := do
  let given ← d.members?
  kind.fits? given
  return {
    metadata := ← ObjectMeta.among? given
    spec := ← Document.optional? "spec" PodSpec.ofDocument? given
    status := ← Document.optional? "status" PodStatus.ofDocument? given }

/-- The name, or the empty text. -/
def name (p : Pod) : String := p.metadata.name.getD ""

end Pod

end PodWorkspace.Cluster
