import PodWorkspace.Cluster.Request
import PodWorkspace.Yaml.Printer

/-! A cluster that only writes down what it is told to create. It has no objects, so a workspace is
always new to it, deleting does nothing, and no command runs in it. The content of secrets is not
written down. -/

namespace PodWorkspace.Preview

open Cluster

/-- An object of a workspace, as it is written down. -/
inductive Captured where
  | claim (c : VolumeClaim)
  | account (a : ServiceAccount)
  | binding (b : RoleBinding)
  | secret (s : Secret)
  | pod (p : Pod)

def Captured.kind : Captured → String
  | .claim _ => "PersistentVolumeClaim"
  | .account _ => "ServiceAccount"
  | .binding _ => "RoleBinding"
  | .secret _ => "Secret"
  | .pod _ => "Pod"

def Captured.toJson : Captured → Json
  | .claim c => c.toJson
  | .account a => a.toJson
  | .binding b => b.toJson
  | .secret s => s.toJson
  | .pod p => p.toJson

/-- The objects that were written down, in the order of their creation. -/
structure Recorder where
  objects : List Captured := []

def redactedText : String := "<redacted>"

def redacted (s : Secret) : Secret :=
  let keys := ((s.data.map (·.keys)).getD []) ++ ((s.stringData.map (·.keys)).getD [])
  { s with
    data := none
    stringData := some (.ofList (keys.map fun k => (k, redactedText))) }

namespace Recorder

/-- The objects as YAML documents. -/
def manifests (r : Recorder) : List String :=
  r.objects.map fun object => Yaml.documentText object.toJson

def stream (r : Recorder) : String :=
  Text.join "\n---\n" (r.manifests.map Text.trim)

/-- The recorder after an object was written down, and what is logged about it. -/
def record (r : Recorder) (object : Captured) : Except Failure Unit × Recorder × List Event :=
  (.ok (), ⟨r.objects ++ [object]⟩, [⟨.debug, "Captured manifest", [("kind", object.kind)]⟩])

def idle {α : Type} (r : Recorder) (answer : α) : Except Failure α × Recorder × List Event :=
  (.ok answer, r, [])

def refuse {α : Type} (r : Recorder) (operation : String) :
    Except Failure α × Recorder × List Event :=
  (.error (.ofCommand operation "not available in dry-run mode"), r, [])

/-- What the recorder answers. It knows no credentials. -/
def answer (r : Recorder) : (q : Request) → Except Failure q.Answer × Recorder × List Event
  | .createNamespace _ => r.idle ()
  | .getClaim _ => r.idle (α := Option VolumeClaim) none
  | .createClaim claim => r.record (.claim claim)
  | .deleteClaim _ => r.idle ()
  | .getPod _ => r.idle (α := Option Pod) none
  | .createPod pod => r.record (.pod pod)
  | .deletePod _ => r.idle ()
  | .deletePodAndWait _ _ => r.idle ()
  | .listPods _ => r.idle (α := List String) []
  | .forceDeletePods _ => r.idle ()
  | .podLogs pod _ => r.refuse s!"logs {pod}"
  | .exec pod _ _ _ => r.refuse s!"exec in {pod}"
  | .getSecret _ => r.idle (α := Option Secret) none
  | .createSecret secret => r.record (.secret (redacted secret))
  | .deleteSecret _ => r.idle ()
  | .getServiceAccount _ => r.idle (α := Option ServiceAccount) none
  | .createServiceAccount account => r.record (.account account)
  | .getRoleBinding _ => r.idle (α := Option RoleBinding) none
  | .createRoleBinding binding => r.record (.binding binding)
  | .deleteRoleBinding _ => r.idle ()
  | .lookUp _ => r.idle (α := Option Registry.Credentials) none

end Recorder

end PodWorkspace.Preview
