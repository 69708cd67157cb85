import PodWorkspace.Cluster.Request
import PodWorkspace.Text.Split

/-! The calls of a program as a transcript shows them, and faults that strike calls by their
text. -/

namespace PodWorkspace.Simulation

open Cluster

/-- A call: what is asked, and the object that is handed over, if there is one. -/
structure Call where
  text : String
  object : Option Json := none

def Call.ofRequest : Request → Call
  | .createNamespace name => ⟨s!"create namespace/{name}", none⟩
  | .getClaim name => ⟨s!"get pvc/{name}", none⟩
  | .createClaim claim => ⟨s!"create pvc/{claim.name}", some claim.toJson⟩
  | .deleteClaim name => ⟨s!"delete pvc/{name}", none⟩
  | .getPod name => ⟨s!"get pod/{name}", none⟩
  | .createPod pod => ⟨s!"create pod/{pod.name}", some pod.toJson⟩
  | .deletePod name => ⟨s!"delete pod/{name}", none⟩
  | .deletePodAndWait name timeout =>
    ⟨s!"delete-and-wait pod/{name} within {timeout.millis}ms", none⟩
  | .listPods selector => ⟨s!"list pods/{selector}", none⟩
  | .forceDeletePods selector => ⟨s!"force-delete pods/{selector}", none⟩
  | .podLogs pod container => ⟨s!"logs {pod}/{container}", none⟩
  | .exec pod container command stdin =>
    ⟨s!"exec {pod}/{container}", some (.ofMembers [("command", .ofTexts command),
      ("stdin", (stdin.map Json.ofText).getD .null)])⟩
  | .getSecret name => ⟨s!"get secret/{name}", none⟩
  | .createSecret secret => ⟨s!"create secret/{secret.name}", some secret.toJson⟩
  | .deleteSecret name => ⟨s!"delete secret/{name}", none⟩
  | .getServiceAccount name => ⟨s!"get serviceaccount/{name}", none⟩
  | .createServiceAccount account =>
    ⟨s!"create serviceaccount/{account.name}", some account.toJson⟩
  | .getRoleBinding name => ⟨s!"get rolebinding/{name}", none⟩
  | .createRoleBinding binding => ⟨s!"create rolebinding/{binding.name}", some binding.toJson⟩
  | .deleteRoleBinding name => ⟨s!"delete rolebinding/{name}", none⟩
  | .lookUp registry => ⟨s!"lookup {registry}", none⟩

/-- The calls with how often each is made in a row. Calls that hand over an object are never
counted together. -/
def transcript : List Call → List (Call × Nat)
  | [] => []
  | c :: rest =>
    match transcript rest with
    | (d, times) :: more =>
      if c.object.isNone && d.object.isNone && c.text == d.text then (d, times + 1) :: more
      else (c, 1) :: (d, times) :: more
    | [] => [(c, 1)]

/-- What a fault does to a call. -/
inductive Mishap where
  /-- The call never ends. -/
  | hang
  /-- The call takes a while. -/
  | delay (time : Duration)
  | fail (message : String)
  /-- The call fails as if it had been cancelled. -/
  | cancelled
  deriving DecidableEq

/-- A fault that strikes the next calls whose text begins as given. -/
structure Fault where
  front : String
  mishap : Mishap
  times : Nat
  deriving DecidableEq

/-- The mishap that strikes a call, and the faults that are left. -/
def strike (text : String) : List Fault → Option Mishap × List Fault
  | [] => (none, [])
  | f :: rest =>
    if 0 < f.times && (Text.stripFront f.front text).isSome then
      (some f.mishap, { f with times := f.times - 1 } :: rest)
    else
      let (mishap, rest) := strike text rest
      (mishap, f :: rest)

end PodWorkspace.Simulation
