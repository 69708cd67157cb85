import PodWorkspace.Cluster.Request

/-! Kinds of requests: those that create or delete some objects, and those that only look. -/

namespace PodWorkspace.Cluster.Request

/-- Whether a request creates or deletes objects. -/
def changesObjects : Request → Bool
  | .createNamespace _ | .createClaim _ | .deleteClaim _ | .createPod _ | .deletePod _
  | .deletePodAndWait .. | .forceDeletePods _ | .createSecret _ | .deleteSecret _
  | .createServiceAccount _ | .createRoleBinding _ | .deleteRoleBinding _ => true
  | .getClaim _ | .getPod _ | .listPods _ | .podLogs .. | .exec .. | .getSecret _
  | .getServiceAccount _ | .getRoleBinding _ | .lookUp _ => false

/-- Whether a request creates a pod. -/
def createsPod : Request → Bool
  | .createPod _ => true
  | _ => false

/-- Whether a request deletes pods, in any of the ways there are. -/
def deletesPods : Request → Bool
  | .deletePod _ | .deletePodAndWait .. | .forceDeletePods _ => true
  | _ => false

/-- Whether a request deletes a pod and waits until it is gone. -/
def deletesPodAndWaits : Request → Bool
  | .deletePodAndWait .. => true
  | _ => false

/-- Whether a request looks at a pod. -/
def looksAtPod : Request → Bool
  | .getPod _ => true
  | _ => false

/-- Whether a request changes volume claims. -/
def changesClaims : Request → Bool
  | .createClaim _ | .deleteClaim _ => true
  | _ => false

/-- Whether a request is for credentials, which the cluster does not keep. -/
def isLookUp : Request → Bool
  | .lookUp _ => true
  | _ => false

/-- Whether a request changes role bindings. -/
def changesBindings : Request → Bool
  | .createRoleBinding _ | .deleteRoleBinding _ => true
  | _ => false

/-- Whether a request creates a volume claim. -/
def createsClaim : Request → Bool
  | .createClaim _ => true
  | _ => false

/-- Whether a request creates a pod or what a pod depends on besides its volume. -/
def createsForPod : Request → Bool
  | .createServiceAccount _ | .createRoleBinding _ | .createSecret _ | .createPod _ => true
  | _ => false

/-- The metadata of the object that a request creates, if it creates one in the namespace. -/
def createdMeta? : Request → Option ObjectMeta
  | .createClaim claim => some claim.metadata
  | .createPod pod => some pod.metadata
  | .createSecret secret => some secret.metadata
  | .createServiceAccount account => some account.metadata
  | .createRoleBinding binding => some binding.metadata
  | _ => none

/-- Whether a request creates a secret. -/
def createsSecret : Request → Bool
  | .createSecret _ => true
  | _ => false

/-- Whether a request deletes a secret. -/
def deletesSecret : Request → Bool
  | .deleteSecret _ => true
  | _ => false

end PodWorkspace.Cluster.Request
