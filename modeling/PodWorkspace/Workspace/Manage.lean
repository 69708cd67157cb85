import PodWorkspace.Manifest.DetectionPod
import PodWorkspace.PullSecret.Sync
import PodWorkspace.Workspace.Basic

/-! The other operations on a workspace: stopping and deleting it, finding out about it, running
commands in it and reading its logs, and finding out on what kind of node it would run. -/

namespace PodWorkspace.Workspace

open Cluster

/-- Deletes the pod; the volume claim keeps the workspace. -/
def stop (w : Workspace) : Action Unit := do
  w.tell .info "Delete pod" []
  request "delete pod" (.deletePod w.resource)

def delete (w : Workspace) : Action Unit := do
  w.tell .info "Delete pod" []
  request "delete pod" (.deletePod w.resource)
  w.tell .info "Delete persistent volume claim" []
  request "delete pvc" (.deleteClaim w.resource)
  if w.options.manifest.clusterRole.isSome then do
    w.tell .info "Delete role binding" []
    request "delete role binding" (.deleteRoleBinding w.resource)
  if w.options.manifest.pullSecretsEnabled then do
    w.tell .info "Delete pull secret" [("secret", w.name.pullSecret)]
    .cancellable "delete pull secret" (PullSecret.delete w.name.pullSecret)

def stuckAdvice : String :=
  "If the pod does not come up automatically it is stuck in an error state. " ++
    "Recreate the workspace to recover from this"

/-- The pod of the workspace when it comes up. A pod that does not is only logged. -/
def runningPod (w : Workspace) : Action (Option Pod) := do
  match ← .attempt (w.waitFor w.resource) with
  | .ok (.ready pod) => return some pod
  | .ok _ => return none
  | .error f =>
    if f.isCancelled then .fail f
    else do
      w.tell .info "Error finding pod" [("error", f.text)]
      .note ⟨.warn, stuckAdvice, []⟩
      return none

/-- The details of the workspace, if it was ever created. -/
def find (w : Workspace) : Action (Option Details) := do
  match ← w.findClaim with
  | none => return none
  | some (claim, stored) => do
    let running ← w.runningPod
    return some (.ofObjects claim stored.spec running)

/-- The arguments that run a command for a user. Users other than root get it through `su`, so that
it runs in their environment. -/
def execCommand (user : Option String) (command : String) : List String :=
  match (user.map Text.trim).filter fun u => u != "" && u != "root" with
  | some u => ["su", u, "-c", command]
  | none => ["sh", "-c", command]

def command (w : Workspace) (user : Option String) (command : String) (stdin : Option String) :
    Action ExecSession := do
  w.tell .debug "Exec command" [("user", user.getD "root")]
  request "exec" (.exec w.resource Manifest.devContainerName (execCommand user command) stdin)

def logs (w : Workspace) : Action String :=
  request "logs" (.podLogs w.resource Manifest.devContainerName)

/-- The template of the detection pod, if there is one. -/
def detectionTemplate (w : Workspace) : Except Failure (Option Pod) :=
  w.options.manifest.archDetectionPodManifestTemplate.mapM
    (Manifest.loadTemplate w.files "ARCH_DETECTION_POD_MANIFEST_TEMPLATE")

/-- The architecture of the node on which the workspace would run. The detection pod, whose name ends
in `suffix`, stays for the next run, which goes to its node. -/
def targetArchitecture (w : Workspace) (suffix : String) : Action String := do
  w.ensureNamespace
  let template ← .ofExcept w.detectionTemplate
  let pod := w.name.archPod suffix
  w.tell .info "Find out cluster architecture" [("pod", pod)]
  request "create architecture detection pod"
    (.createPod (Manifest.detectionPod w.setting w.name pod template))
  if (← w.waitFor pod).isReady then do
    let machine ← request "logs" (.podLogs pod Manifest.devContainerName)
    let arch := Manifest.architecture machine
    w.tell .debug "Detected architecture" [("uname", Text.trim machine), ("arch", arch)]
    return arch
  else .fail (.ofCommand "detect architecture" s!"pod {pod} stopped before reporting")

end PodWorkspace.Workspace
