import PodWorkspace.Manifest.Setting
import PodWorkspace.Text.Split

/-! The helper pod that tells the architecture of the node on which the workspace would run. It
prints the name of the machine hardware and then idles, so that it stays ready. -/

namespace PodWorkspace.Manifest

open Cluster

def detectionArgs : List String := ["sh", "-c", "uname -m && tail -f /dev/null"]

/-- The container of the helper pod, before the template has its say. -/
def detectionContainer (s : Setting) (declared : List Container) : Container where
  name := devContainerName
  image := some s.helperImage
  args := some detectionArgs
  resources := (lastNamed? devContainerName declared).bind (·.resources)

/-- The architecture detection pod of a workspace. Its label leads the workspace pod to it. -/
def detectionPod (s : Setting) (w : WorkspaceName) (name : String) (template : Option Pod) : Pod :=
  let pod := template.getD {}
  let declared := pod.spec.getD {}
  { metadata := { pod.metadata with
      name := some name
      «namespace» := some s.namespace
      labels := some ((pod.metadata.labels.getD ∅).insert workspaceLabel w.resource) }
    spec := some { declared with
      containers := othersThan devContainerName declared.containers ++
        [mergeDeclared (detectionContainer s declared.containers) declared.containers]
      restartPolicy := some "Never" }
    status := pod.status }

/-- The architecture that the name of a machine hardware stands for. -/
def architecture (machine : String) : String :=
  if Text.occurs "arm" machine || Text.occurs "aarch" machine then "arm64" else "amd64"

end PodWorkspace.Manifest
