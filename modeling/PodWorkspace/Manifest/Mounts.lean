import PodWorkspace.Log.Logged
import PodWorkspace.Manifest.Setting
import PodWorkspace.Text.Path

/-! The mounts of a workspace and where their content lives on the volume claim. A named volume has
a directory under its own name, so its content survives when the mounts are reordered; any other
mount has one under its position. -/

namespace PodWorkspace.Manifest

open Cluster

/-- The directory of the mount at a position, below that of all mounts. -/
def directoryOf (index : Nat) (m : Mount) : String :=
  if m.isVolume && !m.source.isEmpty then (Text.stripFront "/" m.source).getD m.source
  else toString index

def claimMount (index : Nat) (m : Mount) : VolumeMount where
  name := claimVolumeName
  mountPath := m.target
  subPath := some s!"devpod/{directoryOf index m}"

/-- The rights of the root user, or none in strict mode. -/
def rootRights (strict : Bool) (capabilities : Option Capabilities) (privileged : Option Bool) :
    Option SecurityContext :=
  if strict then none
  else some {
    capabilities
    privileged
    runAsUser := some 0
    runAsGroup := some 0
    runAsNonRoot := some false }

/-- The mount of the workspace itself, at the path that `WORKSPACE_VOLUME_MOUNT` gives when that is
the target of the mount or a directory above it. -/
def workspaceMount (s : Setting) (spec : RunSpec) : Logged Mount := do
  match spec.workspaceMount.filter (·.target != "") with
  | none =>
    .ofExcept (.error (.configuration "DEVCONTAINER_RUN_OPTIONS" "workspace mount target is empty"))
  | some mount =>
    match s.options.workspaceVolumeMount with
    | none => return mount
    | some path =>
      if Text.isWithin mount.target path then do
        .log ⟨.debug, "Using workspace volume mount", [("mount", path)]⟩
        return { mount with target := path }
      else do
        .log ⟨.warn, "Workspace volume mount needs to be the same as the workspace mount or a parent, skipping option",
          [("workspace_volume_mount", path), ("mount_target", mount.target)]⟩
        return mount

/-- The mounts with their positions, of which the first one is 1: position 0 belongs to the mount
of the workspace. -/
def numbered (mounts : List Mount) : List (Nat × Mount) :=
  ((List.range mounts.length).map (· + 1)).zip mounts

/-- The mounts of the workspace container, that of the workspace in front. -/
def volumeMounts (workspace : Mount) (mounts : List Mount) : List VolumeMount :=
  claimMount 0 workspace ::
    ((numbered mounts).filter (·.2.isSupported)).map fun m => claimMount m.1 m.2

def mountWarnings (mounts : List Mount) : List Event :=
  (mounts.filter fun m => !m.isSupported).map fun m =>
    ⟨.warn, "Unsupported mount type, will skip", [("mount_type", m.kind), ("mount", m.text)]⟩

end PodWorkspace.Manifest
