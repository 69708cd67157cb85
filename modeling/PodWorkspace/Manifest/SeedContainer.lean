import PodWorkspace.Manifest.Mounts
import PodWorkspace.Manifest.Resources

/-! The init container that fills named volumes on the first run of a workspace. Each volume is
mounted at its staging path, and what the image has at the target of the mount is copied there. -/

namespace PodWorkspace.Manifest

open Cluster

/-- A path without the slashes at its end. -/
def withoutEndSlashes (path : String) : String :=
  String.ofList (Text.dropEndWhile (· == '/') path.toList)

def stagingPath (m : VolumeMount) : String := "/" ++ m.subPath.getD ""

def seedCommand (m : VolumeMount) : String :=
  s!"cp -a {withoutEndSlashes m.mountPath}/. {withoutEndSlashes (stagingPath m)}/ || true"

/-- The mounts of named volumes, as the workspace container has them. -/
def seededMounts (spec : RunSpec) : List VolumeMount :=
  ((numbered spec.mounts).filter (·.2.isVolume)).map fun m => claimMount m.1 m.2

def seedContainer (s : Setting) (spec : RunSpec) (resources : Option Resources)
    (mounts : List VolumeMount) : Container where
  name := initContainerName
  image := some (s.image spec)
  command := some ["sh"]
  args := some ["-c", Text.join "\n" (mounts.map seedCommand) ++ "\n"]
  resources
  volumeMounts := some (mounts.map fun m => { m with mountPath := stagingPath m })
  securityContext := rootRights s.options.strictSecurity none none

/-- The init containers of the workspace pod: those that the template declares under other names,
then the one that seeds volumes, if the workspace is new and has any. -/
def initContainers (s : Setting) (spec : RunSpec) (declared : List Container) (fresh : Bool) :
    Except Failure (List Container) :=
  let others := othersThan initContainerName declared
  let mounts := seededMounts spec
  if !fresh || mounts.isEmpty then .ok others
  else do
    let resources ← s.options.helperResources.mapM (parseResources "HELPER_RESOURCES")
    return others ++ [mergeDeclared (seedContainer s spec resources mounts) declared]

end PodWorkspace.Manifest
