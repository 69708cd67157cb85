import PodWorkspace.Cluster.Storage
import PodWorkspace.Log.Logged
import PodWorkspace.Manifest.KeyValues
import PodWorkspace.Manifest.Quantity
import PodWorkspace.Manifest.Setting

/-! The volume claim of a workspace, which also keeps the record of what the workspace is. -/

namespace PodWorkspace.Manifest

open Cluster

/-- The size of a volume claim unless `DISK_SIZE` gives another one. -/
def defaultDiskSize : String := "10Gi"

/-- The access mode for its short name; any other word means that one node reads and writes. -/
def accessMode (word : Option String) : String :=
  match word.map Text.trim with
  | some "ROX" => "ReadOnlyMany"
  | some "RWX" => "ReadWriteMany"
  | some "RWOP" => "ReadWriteOncePod"
  | _ => "ReadWriteOnce"

/-- The annotations that the user wants, or none with a warning when they cannot be read. -/
def extraAnnotations (s : Setting) : Logged (Dict String) :=
  match s.options.pvcAnnotations with
  | none => pure ∅
  | some raw =>
    match parseKeyValues "PVC_ANNOTATIONS" raw with
    | .ok extra => pure extra
    | .error f => do
      .log ⟨.warn, "Ignoring unparsable PVC annotations", [("error", f.text)]⟩
      return ∅

/-- The volume claim of a workspace. The annotation with the record wins over the user's. -/
def workspaceClaim (s : Setting) (w : WorkspaceName) (record : WorkspaceRecord) :
    Logged VolumeClaim := do
  let size ← .ofExcept (parseQuantity "DISK_SIZE" (s.options.diskSize.getD defaultDiskSize))
  let extra ← extraAnnotations s
  return {
    metadata := {
      name := some w.resource
      «namespace» := some s.namespace
      labels := some (createdLabels.insert workspaceUidLabel record.spec.uid)
      annotations := some (extra.insert infoAnnotation record.annotation) }
    spec := some {
      accessModes := some [accessMode s.options.pvcAccessMode]
      requests := some (some (.single "storage" size), none)
      storageClassName := s.options.storageClass } }

end PodWorkspace.Manifest
