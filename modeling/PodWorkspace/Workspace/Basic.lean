import PodWorkspace.Cluster.Request
import PodWorkspace.Details
import PodWorkspace.Manifest.Access
import PodWorkspace.Manifest.Template
import PodWorkspace.Manifest.WorkspacePod
import PodWorkspace.Readiness.Wait

/-! A workspace under its configuration, and the steps that several operations on it share. The
cluster is the only memory: each operation looks at what is there first. -/

namespace PodWorkspace

open Cluster

/-- A workspace: its options, the namespace it lives in, and the files that templates are read
from. -/
structure Workspace where
  options : Options
  «namespace» : String
  files : Files

namespace Workspace

def name (w : Workspace) : WorkspaceName := ⟨w.options.workspaceId⟩

/-- The name of its pod, its volume claim and its role binding. -/
def resource (w : Workspace) : String := w.name.resource

def setting (w : Workspace) : Manifest.Setting := ⟨w.options.manifest, w.namespace⟩

/-- Asks the cluster one question, which may be cancelled. -/
def request (operation : String) (r : Request) : Action r.Answer :=
  .cancellable operation (.ask (I := interface) r)

def tell (w : Workspace) (level : Level) (message : String) (fields : List (String × String)) :
    Action Unit :=
  .note ⟨level, message, ("workspace", w.resource) :: fields⟩

/-- Waits for a pod under the deadline and the policy of the options. -/
def waitFor (w : Workspace) (pod : String) : Action Readiness.WaitEnd :=
  Readiness.wait pod w.options.podTimeout w.options.completedPodPolicy

/-- Creates the namespace when that is wanted. A failure is only logged. -/
def ensureNamespace (w : Workspace) : Action Unit :=
  if !w.options.manifest.createNamespace || w.namespace.isEmpty then return ()
  else do
    .note ⟨.debug, "Create namespace", [("namespace", w.namespace)]⟩
    match ← .attempt (request "create namespace" (.createNamespace w.namespace)) with
    | .ok _ => return ()
    | .error f => .note ⟨.debug, "Error creating namespace",
        [("namespace", w.namespace), ("error", f.text)]⟩

def recordOf (w : Workspace) (claim : VolumeClaim) : Except Failure WorkspaceRecord :=
  match (claim.metadata.annotation? infoAnnotation).filter fun raw => !raw.isEmpty with
  | some raw => WorkspaceRecord.ofAnnotation raw
  | none => .error (.serialization
      s!"pvc {w.resource} is missing the {infoAnnotation} annotation" (some "ContainerInfo"))

/-- The volume claim of the workspace with its record, if there is one. -/
def findClaim (w : Workspace) : Action (Option (VolumeClaim × WorkspaceRecord)) := do
  match ← request "get pvc" (.getClaim w.resource) with
  | none => return none
  | some claim => do
    let record ← .ofExcept (w.recordOf claim)
    return some (claim, record)

/-- The template of the workspace pod, if there is one. -/
def podTemplate (w : Workspace) : Action (Option Pod) :=
  match w.options.manifest.podManifestTemplate with
  | none => return none
  | some path => do
    .note ⟨.debug, "Load pod manifest template", [("path", path)]⟩
    let pod ← .ofExcept (Manifest.loadTemplate w.files "POD_MANIFEST_TEMPLATE" path)
    return some pod

end Workspace

end PodWorkspace
