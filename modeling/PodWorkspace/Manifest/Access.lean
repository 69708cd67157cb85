import PodWorkspace.Cluster.Access
import PodWorkspace.Manifest.Setting

/-! The service account of a workspace pod, and the binding that grants it a cluster role. -/

namespace PodWorkspace.Manifest

open Cluster

def createdMeta (name «namespace» : String) : ObjectMeta where
  name := some name
  «namespace» := some «namespace»
  labels := some createdLabels

def serviceAccount (name «namespace» : String) : ServiceAccount where
  metadata := createdMeta name «namespace»

/-- The binding, named after the workspace, that grants a cluster role to an account. -/
def roleBinding (w : WorkspaceName) (account clusterRole «namespace» : String) : RoleBinding where
  metadata := createdMeta w.resource «namespace»
  roleRef := ⟨"rbac.authorization.k8s.io", "ClusterRole", clusterRole⟩
  subjects := some [{ kind := "ServiceAccount", name := account }]

end PodWorkspace.Manifest
