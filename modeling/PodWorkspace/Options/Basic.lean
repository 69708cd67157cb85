import PodWorkspace.Failure
import PodWorkspace.Text.Split
import PodWorkspace.Time.DurationText

/-! The options of the provider. `ManifestOptions` holds those that shape the manifests: a pod
carries a snapshot of them, and the pod is built anew when they have changed. How to reach the
cluster and how long to wait never counts as a change. -/

namespace PodWorkspace

/-- The options that shape the manifests, as the user wrote them. -/
structure ManifestOptions where
  pullSecretsEnabled : Bool := false
  createNamespace : Bool := false
  clusterRole : Option String := none
  serviceAccount : Option String := none
  helperImage : Option String := none
  helperResources : Option String := none
  storageClass : Option String := none
  diskSize : Option String := none
  pvcAccessMode : Option String := none
  pvcAnnotations : Option String := none
  nodeSelector : Option String := none
  resources : Option String := none
  workspaceVolumeMount : Option String := none
  podManifestTemplate : Option String := none
  archDetectionPodManifestTemplate : Option String := none
  labels : Option String := none
  dangerouslyOverrideImage : Option String := none
  strictSecurity : Bool := false
  deriving DecidableEq, Repr, Inhabited

structure Connection where
  context : Option String := none
  kubeconfig : Option String := none
  «namespace» : Option String := none
  deriving DecidableEq, Repr, Inhabited

/-- What happens when the main container of a pod has ended with exit code 0. -/
inductive CompletedPodPolicy where
  /-- The pod is deleted, and the wait goes on for a new one. -/
  | restart
  /-- The pod is reported as finished. -/
  | exit
  deriving DecidableEq, Repr, Inhabited

namespace CompletedPodPolicy

/-- The policy that a word names, in any ASCII case and without the white space around it; the
empty word names `restart`. -/
def parse (raw : String) : Except Failure CompletedPodPolicy :=
  let word := Text.lowerAscii (Text.trim raw)
  if word = "" ∨ word = "restart" then .ok .restart
  else if word = "exit" then .ok .exit
  else .error (.configuration "COMPLETED_POD_POLICY"
    s!"unknown policy '{word}', expected 'restart' or 'exit'")

def text : CompletedPodPolicy → String
  | .restart => "restart"
  | .exit => "exit"

end CompletedPodPolicy

/-- The deadline for a pod to become ready unless `POD_TIMEOUT` sets another one. -/
def defaultPodTimeout : Duration := .ofSeconds 600

/-- The whole configuration of the provider for one workspace. -/
structure Options where
  workspaceId : String
  manifest : ManifestOptions := {}
  connection : Connection := {}
  podTimeout : Duration := defaultPodTimeout
  completedPodPolicy : CompletedPodPolicy := .restart
  reprovisioningMode : Bool := false
  deriving Repr

/-- Whether an option is switched on: only by the word `true`, in any ASCII case. -/
def isEnabled (value : Option String) : Bool :=
  match value with
  | none => false
  | some v => Text.lowerAscii (Text.trim v) == "true"

/-- The deadline that `POD_TIMEOUT` sets, or the default one for an absent or blank text. -/
def parsePodTimeout (value : Option String) : Except Failure Duration :=
  match value with
  | none => .ok defaultPodTimeout
  | some v =>
    if Text.isAllBlank v then .ok defaultPodTimeout
    else
      match Duration.parse v with
      | .ok d => .ok d
      | .error e => .error (.configuration "POD_TIMEOUT" e.message)

/-- An option's value without the white space around it, if anything is left. -/
def nonEmpty (value : Option String) : Option String :=
  match value with
  | none => none
  | some v => if Text.trim v = "" then none else some (Text.trim v)

end PodWorkspace
