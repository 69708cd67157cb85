import PodWorkspace.Cluster.Request
import PodWorkspace.Simulation.Phase
import PodWorkspace.Text.Split

/-! The objects of a simulated cluster. They are stored by name; creating one replaces another, but
a pod whose name is taken cannot be created; deleting removes at once and ignores what is not
there. -/

namespace PodWorkspace.Simulation

open Cluster

/-- A pod and the phases in which it shows itself from now on. -/
structure StoredPod where
  pod : Pod
  phases : List Phase

/-- The objects of a cluster. -/
structure Store where
  namespaces : List String := []
  claims : Dict VolumeClaim := ∅
  pods : Dict StoredPod := ∅
  secrets : Dict Secret := ∅
  serviceAccounts : Dict ServiceAccount := ∅
  roleBindings : Dict RoleBinding := ∅

/-- What the outside world is like while a program runs. -/
structure Surroundings where
  /-- The phases of a pod that is created. -/
  phases : List Phase := [.up true]
  claimTime : Option Timestamp := none
  podTime : Option Timestamp := none
  /-- The credentials by registry, or the failure to look them up; the entry for `*` counts for all
  other registries. -/
  credentials : Dict (Except String Registry.Credentials) := ∅
  /-- What the containers log. -/
  logs : String := ""
  stdout : String := ""
  stderr : String := ""
  exitCode : Int := 0

namespace Store

/-- Whether the labels of a pod satisfy a selector of the form `key=value`. -/
def selects (selector : String) (pod : Pod) : Bool :=
  match Text.cut '=' selector with
  | some (key, value) => pod.metadata.label? key == some value
  | none => false

def podsMatching (s : Store) (selector : String) : List String :=
  (s.pods.entries.filter fun e => selects selector e.2.pod).map (·.1)

/-- One observation of a pod, and the store after it. The last phase repeats. -/
def observePod (s : Store) (name : String) : Except Failure (Option Pod) × Store :=
  match s.pods.get? name with
  | none => (.ok none, s)
  | some stored =>
    let phase := stored.phases.headD (.up true)
    let later := if stored.phases.length ≤ 1 then stored.phases else stored.phases.tail
    match phase.shown stored.pod with
    | .ok none => (.ok none, { s with pods := s.pods.erase name })
    | .ok shown => (.ok shown, { s with pods := s.pods.insert name { stored with phases := later } })
    | .error message =>
      (.error (.ofCommand "get pod" message),
        { s with pods := s.pods.insert name { stored with phases := later } })

/-- Creates a pod, which shows itself in the given phases. -/
def createPod (s : Store) (around : Surroundings) (pod : Pod) : Except Failure Unit × Store :=
  if (s.pods.get? pod.name).isSome then
    (.error (.ofCommand "create pod" s!"pod {pod.name} already exists"), s)
  else
    let created := { pod with metadata := { pod.metadata with
      creationTimestamp := around.podTime.or pod.metadata.creationTimestamp } }
    (.ok (), { s with pods := s.pods.insert pod.name ⟨created, around.phases⟩ })

/-- The namespaces with one more, unless it is there. -/
def withNamespace (s : Store) (name : String) : Store :=
  if s.namespaces.contains name then s else { s with namespaces := s.namespaces ++ [name] }

def session (around : Surroundings) : ExecSession where
  stdout := around.stdout
  stderr := around.stderr
  ended :=
    if around.exitCode = 0 then .ok ()
    else .error (.exited "exec" around.exitCode
      (if around.stderr.isEmpty then none else some around.stderr))

def lookUp (around : Surroundings) (registry : String) : Except Failure (Option Registry.Credentials) :=
  match (around.credentials.get? registry).or (around.credentials.get? "*") with
  | none => .ok none
  | some (.ok credentials) => .ok (some credentials)
  | some (.error message) => .error (.ofCommand "lookup" message)

/-- What a cluster with these objects answers, and its objects after that. -/
def answer (s : Store) (around : Surroundings) : (r : Request) → Except Failure r.Answer × Store
  | .createNamespace name => (.ok (), s.withNamespace name)
  | .getClaim name => (.ok (s.claims.get? name), s)
  | .createClaim claim =>
    let created := { claim with metadata := { claim.metadata with
      creationTimestamp := around.claimTime.or claim.metadata.creationTimestamp } }
    (.ok (), { s with claims := s.claims.insert claim.name created })
  | .deleteClaim name => (.ok (), { s with claims := s.claims.erase name })
  | .getPod name => s.observePod name
  | .createPod pod => s.createPod around pod
  | .deletePod name => (.ok (), { s with pods := s.pods.erase name })
  | .deletePodAndWait name _ => (.ok (), { s with pods := s.pods.erase name })
  | .listPods selector => (.ok (s.podsMatching selector), s)
  | .forceDeletePods selector =>
    (.ok (), { s with pods := s.pods.filter fun _ stored => !selects selector stored.pod })
  | .podLogs pod _ =>
    if (s.pods.get? pod).isSome then (.ok around.logs, s)
    else (.error (.ofCommand "logs" s!"pod {pod} not found"), s)
  | .exec pod _ _ _ =>
    if (s.pods.get? pod).isSome then (.ok (session around), s)
    else (.error (.ofCommand "exec" s!"pod {pod} not found"), s)
  | .getSecret name => (.ok (s.secrets.get? name), s)
  | .createSecret secret => (.ok (), { s with secrets := s.secrets.insert secret.name secret })
  | .deleteSecret name => (.ok (), { s with secrets := s.secrets.erase name })
  | .getServiceAccount name => (.ok (s.serviceAccounts.get? name), s)
  | .createServiceAccount account =>
    (.ok (), { s with serviceAccounts := s.serviceAccounts.insert account.name account })
  | .getRoleBinding name => (.ok (s.roleBindings.get? name), s)
  | .createRoleBinding binding =>
    (.ok (), { s with roleBindings := s.roleBindings.insert binding.name binding })
  | .deleteRoleBinding name => (.ok (), { s with roleBindings := s.roleBindings.erase name })
  | .lookUp registry => (lookUp around registry, s)

end Store

end PodWorkspace.Simulation
