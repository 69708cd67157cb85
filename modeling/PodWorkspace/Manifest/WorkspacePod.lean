import PodWorkspace.Manifest.SeedContainer

/-! The pod of a workspace. It is built from nothing or from a template, with the labels of the
template, then those of `LABELS`, then the provider's own, each of which wins over the ones
before. -/

namespace PodWorkspace.Manifest

open Cluster

/-- What is decided about a pod by looking at the cluster. -/
structure Placement where
  serviceAccount : Option String := none
  /-- The secret with which its image is pulled. -/
  pullSecret : Option String := none
  /-- The workspace whose detection pods it has to run beside. -/
  affinityWorkspace : Option String := none
  deriving DecidableEq, Inhabited

/-- The pod from which one without a template is built. -/
def barePod : Pod := { spec := some { restartPolicy := some "Never" } }

def overlay (option : String) (d : Dict String) : Option String → Except Failure (Dict String)
  | none => .ok d
  | some raw => (parseKeyValues option raw).map d.insertAll

def podLabels (s : Setting) (spec : RunSpec) (declared : Dict String) :
    Except Failure (Dict String) := do
  let labels ← overlay "LABELS" declared s.options.labels
  return (labels.insertAll createdLabels).insert workspaceUidLabel spec.uid

/-- The resources of the workspace container: those of `RESOURCES`, else those of the
specification, else those of the template's workspace container or its first one. -/
def containerResources (s : Setting) (spec : RunSpec) (declared : List Container) :
    Except Failure Resources :=
  match s.options.resources with
  | some raw => parseResources "RESOURCES" raw
  | none =>
    match spec.resources.filter fun raw => !Text.isAllBlank raw with
    | some raw => parseResources "DEVCONTAINER_RUN_OPTIONS" raw
    | none =>
      let source := (declared.find? (·.name == devContainerName)).or declared.head?
      .ok ((source.bind (·.resources)).getD {})

/-- A list, unless nothing is in it. -/
def someIfCons {α : Type} (items : List α) : Option (List α) :=
  if items.isEmpty then none else some items

/-- The workspace container, before the template has its say. -/
def devContainer (s : Setting) (spec : RunSpec) (resources : Resources) (workspace : Mount) :
    Container where
  name := devContainerName
  image := some (s.image spec)
  command := some [spec.entrypoint]
  args := someIfCons spec.cmd
  env := someIfCons (spec.env.entries.map fun e => { name := e.1, value := some e.2 })
  resources := some resources
  volumeMounts := some (volumeMounts workspace spec.mounts)
  securityContext := rootRights s.options.strictSecurity
    ((someIfCons spec.capAdd).map fun add => { add := some add }) spec.privileged

def claimVolume (w : WorkspaceName) : Volume where
  name := claimVolumeName
  claim := some (w.resource, none)

/-- The demand to run on the node of the detection pods of a workspace. -/
def detectionTerm («namespace» workspace : String) : Json :=
  .ofMembers [
    ("labelSelector", .ofMembers [("matchExpressions", .list [.ofMembers [
      ("key", .ofText workspaceLabel), ("operator", .ofText "In"),
      ("values", .ofTexts [workspace])]])]),
    ("namespaces", .ofTexts [«namespace»]),
    ("topologyKey", .ofText "kubernetes.io/hostname")]

def requiring (term : Json) (affinity : Option Affinity) : Affinity :=
  let a := affinity.getD {}
  let pods := a.podAffinity.getD {}
  { a with podAffinity := some { pods with required := some (pods.required.getD [] ++ [term]) } }

def placed (s : Setting) (placement : Placement) (spec : PodSpec) : PodSpec :=
  { spec with
    serviceAccountName := placement.serviceAccount.or spec.serviceAccountName
    imagePullSecrets := (placement.pullSecret.map ([·])).or spec.imagePullSecrets
    affinity :=
      match placement.affinityWorkspace, s.options.nodeSelector with
      | some workspace, none => some (requiring (detectionTerm s.namespace workspace) spec.affinity)
      | _, _ => spec.affinity }

def placementEvents (s : Setting) (placement : Placement) : List Event :=
  match placement.affinityWorkspace, s.options.nodeSelector with
  | some workspace, none =>
    [⟨.debug, "Add pod affinity to architecture detection pod", [("workspace", workspace)]⟩]
  | _, _ => []

/-- The workspace pod before anything is known about the cluster. -/
def unplacedPod (s : Setting) (w : WorkspaceName) (spec : RunSpec) (template : Option Pod)
    (fresh : Bool) : Logged Pod := do
  let workspace ← workspaceMount s spec
  let pod := template.getD barePod
  let declared := pod.spec.getD {}
  -- Of several options that cannot be used the first one in this order is reported.
  let labels ← .ofExcept (podLabels s spec (pod.metadata.labels.getD ∅))
  let nodeSelector ← .ofExcept
    (overlay "NODE_SELECTOR" (declared.nodeSelector.getD ∅) s.options.nodeSelector)
  let resources ← .ofExcept (containerResources s spec declared.containers)
  .logAll (mountWarnings spec.mounts)
  let inits ← .ofExcept
    (initContainers s spec (declared.initContainers.getD []) fresh)
  let container := mergeDeclared (devContainer s spec resources workspace) declared.containers
  return {
    metadata := { pod.metadata with
      name := some w.resource
      «namespace» := some s.namespace
      labels := some labels }
    spec := some { declared with
      containers := othersThan devContainerName declared.containers ++ [container]
      initContainers := someIfCons inits
      volumes := some (claimVolume w :: declared.volumes.getD [])
      nodeSelector := someIfNonempty nodeSelector }
    status := pod.status }

/-- The pod of a workspace. The container that seeds volumes is there when the workspace is `fresh` and
there are volumes to seed. -/
def workspacePod (s : Setting) (w : WorkspaceName) (spec : RunSpec) (template : Option Pod)
    (fresh : Bool) (placement : Placement) : Logged Pod := do
  let pod ← unplacedPod s w spec template fresh
  .logAll (placementEvents s placement)
  return { pod with spec := pod.spec.map (placed s placement) }

end PodWorkspace.Manifest
