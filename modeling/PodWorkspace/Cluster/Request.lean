import PodWorkspace.Cluster.Access
import PodWorkspace.Cluster.Pod
import PodWorkspace.Cluster.Storage
import PodWorkspace.Program.Basic
import PodWorkspace.Registry.Credentials

/-! What the provider asks: the cluster, in one namespace, and the store of registry credentials.
Deleting an object that is not there is no failure. -/

namespace PodWorkspace.Cluster

/-- A question or an order. -/
inductive Request where
  | createNamespace (name : String)
  | getClaim (name : String)
  | createClaim (claim : VolumeClaim)
  | deleteClaim (name : String)
  | getPod (name : String)
  | createPod (pod : Pod)
  | deletePod (name : String)
  /-- Deletes a pod and waits until it is gone. -/
  | deletePodAndWait (name : String) (timeout : Duration)
  /-- The names of the pods that a label selector finds. -/
  | listPods (selector : String)
  /-- Deletes the pods that a label selector finds, without grace. -/
  | forceDeletePods (selector : String)
  | podLogs (pod container : String)
  | exec (pod container : String) (command : List String) (stdin : Option String)
  | getSecret (name : String)
  | createSecret (secret : Secret)
  | deleteSecret (name : String)
  | getServiceAccount (name : String)
  | createServiceAccount (account : ServiceAccount)
  | getRoleBinding (name : String)
  | createRoleBinding (binding : RoleBinding)
  | deleteRoleBinding (name : String)
  /-- The credentials that are kept for a registry. -/
  | lookUp (registry : String)

/-- What a remote command wrote, and how it ended. -/
structure ExecSession where
  stdout : String
  stderr : String
  ended : Except Failure Unit

def Request.Answer : Request → Type
  | .getClaim _ => Option VolumeClaim
  | .getPod _ => Option Pod
  | .listPods _ => List String
  | .podLogs .. => String
  | .exec .. => ExecSession
  | .getSecret _ => Option Secret
  | .getServiceAccount _ => Option ServiceAccount
  | .getRoleBinding _ => Option RoleBinding
  | .lookUp _ => Option Registry.Credentials
  | _ => Unit

abbrev interface : Interface := ⟨Request, Request.Answer⟩

abbrev Action := Program interface

end PodWorkspace.Cluster
