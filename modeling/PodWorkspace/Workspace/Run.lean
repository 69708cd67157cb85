import PodWorkspace.Manifest.WorkspaceClaim
import PodWorkspace.Options.Snapshot
import PodWorkspace.PullSecret.Sync
import PodWorkspace.Workspace.Basic

/-! Creating and starting a workspace. The volume claim comes first and only once; then the service
account, the pull secret and the pod, which is left alone when it was built with the same options
and replaced otherwise. Whatever may be wrong with the input is found before anything is created. -/

namespace PodWorkspace.Workspace

open Cluster

/-- Creates the service account unless it is there. -/
def ensureAccount (w : Workspace) (account : String) : Action Unit := do
  match ← request "get service account" (.getServiceAccount account) with
  | some _ => .note ⟨.debug, "Service account exists", [("service_account", account)]⟩
  | none => do
    .note ⟨.info, "Create service account", [("service_account", account)]⟩
    request "create service account"
      (.createServiceAccount (Manifest.serviceAccount account w.namespace))

/-- Creates the role binding of the workspace unless it is there. -/
def ensureRoleBinding (w : Workspace) (account role : String) : Action Unit := do
  match ← request "get role binding" (.getRoleBinding w.resource) with
  | some _ => .note ⟨.debug, "Role binding exists", [("role_binding", w.resource)]⟩
  | none => do
    .note ⟨.info, "Create role binding", [("role_binding", w.resource), ("cluster_role", role)]⟩
    request "create role binding"
      (.createRoleBinding (Manifest.roleBinding w.name account role w.namespace))

/-- Sees to the service account, if there is to be one, and to its role binding. -/
def ensureServiceAccount (w : Workspace) : Action Unit :=
  match w.options.manifest.serviceAccount with
  | none => return ()
  | some account => do
    w.ensureAccount account
    match w.options.manifest.clusterRole with
    | none => return ()
    | some role => w.ensureRoleBinding account role

/-- Sees to the pull secret when that is wanted, and names it when the pod can use it. -/
def ensurePullSecret (w : Workspace) (spec : RunSpec) : Action (Option String) := do
  if w.options.manifest.pullSecretsEnabled then do
    let outcome ← .cancellable "ensure pull secret"
      (PullSecret.ensure w.name.pullSecret w.namespace (w.setting.image spec))
    return if outcome.isAttachable then some w.name.pullSecret else none
  else return none

/-- The names of the architecture detection pods. A failure to list them counts as none. -/
def detectionPods (w : Workspace) : Action (List String) := do
  match ← .attempt (request "list pods" (.listPods w.name.detectionSelector)) with
  | .ok (names : List String) => return names
  | .error f =>
    if f.isCancelled then .fail f
    else do
      .note ⟨.debug, "Skipping architecture detection pod lookup", [("error", f.text)]⟩
      return []

/-- The workspace beside whose detection pods the pod has to run. An explicit node selector has
already decided where it runs. -/
def affinityWorkspace (w : Workspace) (detection : List String) : Action (Option String) := do
  match detection.head?, w.options.manifest.nodeSelector with
  | some found, none => do
    .note ⟨.info, "Found architecture detection pod, using pod affinity", [("pod", found)]⟩
    return some w.resource
  | _, _ => return none

def isCurrent (w : Workspace) (existing : Pod) : Action Bool := do
  match existing.metadata.annotation? lastAppliedAnnotation with
  | none => do
    .note ⟨.debug, "Existing pod has no last-applied configuration", []⟩
    return false
  | some raw =>
    match ManifestOptions.ofSnapshot raw with
    | .ok previous => return previous == w.options.manifest
    | .error f => do
      .note ⟨.warn, "Error decoding existing provider options, continuing", [("error", f.text)]⟩
      return false

/-- A pod that carries the snapshot of the options. -/
def stamped (w : Workspace) (pod : Pod) : Pod :=
  { pod with metadata := { pod.metadata with
      annotations := some ((pod.metadata.annotations.getD ∅).insert lastAppliedAnnotation
        w.options.manifest.snapshot) } }

/-- Tells how the wait for the pod ended, unless all is well. -/
def tellEnd (w : Workspace) : Readiness.WaitEnd → Action Unit
  | .ready _ => return ()
  | .exited _ => w.tell .info "Pod exited" []
  | .gone => w.tell .debug "Pod not found after create" []

/-- Removes the detection pods, if there are any. -/
def removeDetection (w : Workspace) (detection : List String) : Action Unit :=
  if detection.isEmpty then return ()
  else do
    w.tell .info "Cleaning up architecture detection pod" []
    request "delete architecture detection pods" (.forceDeletePods w.name.detectionSelector)

/-- Waits for the pod, and then removes the detection pods. -/
def settlePod (w : Workspace) (detection : List String) : Action Unit := do
  w.tell .info "Waiting for pod to come up" []
  w.tellEnd (← w.waitFor w.resource)
  w.removeDetection detection

def createPod (w : Workspace) (pod : Pod) (detection : List String) : Action Unit := do
  w.tell .info "Create pod" []
  request "create pod" (.createPod (w.stamped pod))
  w.settlePod detection

/-- Sees to what the pod depends on, and finds out where it is placed and which detection pods there
are. -/
def preparePod (w : Workspace) (spec : RunSpec) :
    Action (Manifest.Placement × List String) := do
  w.ensureServiceAccount
  let pullSecret ← w.ensurePullSecret spec
  let detection ← w.detectionPods
  let affinityWorkspace ← w.affinityWorkspace detection
  return ({ serviceAccount := w.options.manifest.serviceAccount, pullSecret, affinityWorkspace },
    detection)

/-- Puts a pod in the place of the one that is there, unless that was built with the options of the
workspace. -/
def replacePod (w : Workspace) (pod : Pod) (detection : List String) : Action Unit := do
  match ← request "get pod" (.getPod w.resource) with
  | none => w.createPod pod detection
  | some existing => do
    if ← w.isCurrent existing then
      w.tell .debug "Provider options did not change, skipping update" []
    else do
      w.tell .info "Provider options changed, recreating pod" []
      request "delete pod" (.deletePodAndWait w.resource w.options.podTimeout)
      w.createPod pod detection

/-- What the pod of a workspace is built from. -/
structure Plan where
  spec : RunSpec
  template : Option Pod
  /-- Whether the volume claim has only just been created. -/
  fresh : Bool

def podOf (w : Workspace) (plan : Plan) (placement : Manifest.Placement) : Logged Pod :=
  Manifest.workspacePod w.setting w.name plan.spec plan.template plan.fresh placement

/-- Brings the pod of the workspace up, with all that it depends on. -/
def applyPod (w : Workspace) (plan : Plan) : Action Unit := do
  let (placement, detection) ← w.preparePod plan.spec
  let pod ← .ofLogged (w.podOf plan placement)
  w.replacePod pod detection

/-- Builds the pod without a look at the cluster, so that bad input fails before anything is
created. -/
def validatePod (w : Workspace) (plan : Plan) : Action Unit := do
  let _ ← .ofLogged (w.podOf plan {})

/-- The plan for a workspace whose volume claim is there. A specification that is given wins over the
stored one. -/
def storedPlan (w : Workspace) (given : Option RunSpec) (stored : WorkspaceRecord) :
    Action Plan := do
  let template ← w.podTemplate
  let plan : Plan := { spec := given.getD stored.spec, template, fresh := false }
  w.validatePod plan
  return plan

/-- The plan for a new workspace, whose volume claim is created last. -/
def freshPlan (w : Workspace) (spec : RunSpec) : Action Plan := do
  let claim ← .ofLogged (Manifest.workspaceClaim w.setting w.name ⟨w.name.id, spec⟩)
  let template ← w.podTemplate
  let plan : Plan := { spec, template, fresh := true }
  w.validatePod plan
  w.tell .info "Create persistent volume claim" []
  request "create pvc" (.createClaim claim)
  return plan

/-- Creates the workspace, if it is new, and finds out what its pod is built from. A new workspace
needs a specification. -/
def runPlan (w : Workspace) (given : Option RunSpec) : Action Plan := do
  w.ensureNamespace
  match ← w.findClaim with
  | some (_, stored) => w.storedPlan given stored
  | none =>
    match given with
    | none => .fail (.missingSpecification w.resource)
    | some spec => w.freshPlan spec

/-- Finds out what the pod of a workspace is built from as it is stored. -/
def startPlan (w : Workspace) : Action Plan := do
  match ← w.findClaim with
  | none => .fail (.workspaceNotFound w.resource)
  | some (_, stored) => w.storedPlan none stored

/-- Creates the workspace, if it is new, and starts it. -/
def run (w : Workspace) (given : Option RunSpec) : Action Unit := do
  w.applyPod (← w.runPlan given)

def start (w : Workspace) : Action Unit := do
  w.applyPod (← w.startPlan)

end PodWorkspace.Workspace
