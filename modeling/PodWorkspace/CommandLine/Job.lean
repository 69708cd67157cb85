import PodWorkspace.CommandLine.Invocation
import PodWorkspace.Options.Basic
import PodWorkspace.Spec.Basic

/-! What an invocation asks for. Blank values count as not given. The options are checked before
what only one command takes, but a command to run in the container has to be there at all. -/

namespace PodWorkspace.CommandLine

/-- What is done with a workspace of the cluster. -/
inductive Task where
  | run (spec : Option RunSpec)
  | start
  | stop
  | delete
  | find
  | command (user : Option String) (text : String)
  | targetArchitecture
  | logs

inductive Job where
  | onCluster (options : Options) (task : Task)
  | renderTemplate (options : Options) (isVerbose : Bool)
  | canReprovision (isAllowed : Bool)

namespace Invocation

/-- The value of a flag, unless it is blank. -/
def filled? (i : Invocation) (flag : String) : Option String := nonEmpty (i.value? flag)

def isOn (i : Invocation) (flag : String) : Bool := isEnabled (i.value? flag)

def manifestOptions (i : Invocation) : ManifestOptions where
  pullSecretsEnabled := i.isOn "kubernetes-pull-secrets-enabled"
  createNamespace := i.isOn "create-namespace"
  clusterRole := i.filled? "cluster-role"
  serviceAccount := i.filled? "service-account"
  helperImage := i.filled? "helper-image"
  helperResources := i.filled? "helper-resources"
  storageClass := i.filled? "storage-class"
  diskSize := i.filled? "disk-size"
  pvcAccessMode := i.filled? "pvc-access-mode"
  pvcAnnotations := i.filled? "pvc-annotations"
  nodeSelector := i.filled? "node-selector"
  resources := i.filled? "resources"
  workspaceVolumeMount := i.filled? "workspace-volume-mount"
  podManifestTemplate := i.filled? "pod-manifest-template"
  archDetectionPodManifestTemplate := i.filled? "arch-detection-pod-manifest-template"
  labels := i.filled? "labels"
  dangerouslyOverrideImage := i.filled? "dangerously-override-image"
  strictSecurity := i.isOn "strict-security"

def connection (i : Invocation) : Connection where
  context := i.filled? "kubernetes-context"
  kubeconfig := i.filled? "kubernetes-config"
  «namespace» := i.filled? "kubernetes-namespace"

def required (envName : String) : Failure := .configuration envName "is required"

def options (i : Invocation) : Except Failure Options := do
  let workspaceId ← match i.filled? workspaceFlag.name with
    | some id => .ok id
    | none => .error (required workspaceFlag.envName)
  let completedPodPolicy ← match i.filled? "completed-pod-policy" with
    | some word => CompletedPodPolicy.parse word
    | none => .ok .restart
  let podTimeout ← parsePodTimeout (i.value? "pod-timeout")
  return {
    workspaceId
    manifest := i.manifestOptions
    connection := i.connection
    podTimeout
    completedPodPolicy
    reprovisioningMode := i.isOn reprovisioningFlag.name }

def shellCommand (i : Invocation) : Except Failure String :=
  match (i.filled? "command").or (i.filled? "legacy-command") with
  | some text => .ok text
  | none => .error (required "DEVCONTAINER_COMMAND")

def job (i : Invocation) : Except Failure Job :=
  let onCluster (task : Task) : Except Failure Job := do return .onCluster (← i.options) task
  match i.command with
  | .run => do
    let options ← i.options
    let spec ← (i.filled? "run-options").mapM RunSpec.parse
    return .onCluster options (.run spec)
  | .start => onCluster .start
  | .stop => onCluster .stop
  | .delete => onCluster .delete
  | .find => onCluster .find
  | .command => do
    let text ← i.shellCommand
    return .onCluster (← i.options) (.command (i.filled? "user") text)
  | .targetArchitecture => onCluster .targetArchitecture
  | .renderTemplate => do return .renderTemplate (← i.options) (i.isOn "verbose")
  | .logs => onCluster .logs
  | .canReprovision => return .canReprovision (i.isOn reprovisioningFlag.name)

def isDebugging (i : Invocation) : Bool := i.isOn debugFlag.name

end Invocation

end PodWorkspace.CommandLine
