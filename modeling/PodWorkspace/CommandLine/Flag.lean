/-! The commands of the provider and the flags of each. Every flag takes a value, and every flag can
be given as a variable of the environment instead; a flag on the command line wins. -/

namespace PodWorkspace.CommandLine

/-- A flag: its name, without the dashes, and the name of the variable for it. -/
structure Flag where
  name : String
  envName : String
  deriving DecidableEq, Repr

/-- The flag that switches debugging on, which may stand before the command or after it. -/
def debugFlag : Flag := ⟨"debug", "DEVPOD_DEBUG"⟩

def workspaceFlag : Flag := ⟨"devcontainer-id", "DEVCONTAINER_ID"⟩

def reprovisioningFlag : Flag := ⟨"reprovisioning-mode", "REPROVISIONING_MODE"⟩

def optionFlags : List Flag :=
  [workspaceFlag,
    ⟨"kubernetes-context", "KUBERNETES_CONTEXT"⟩,
    ⟨"kubernetes-config", "KUBERNETES_CONFIG"⟩,
    ⟨"kubernetes-namespace", "KUBERNETES_NAMESPACE"⟩,
    ⟨"kubernetes-pull-secrets-enabled", "KUBERNETES_PULL_SECRETS_ENABLED"⟩,
    ⟨"create-namespace", "CREATE_NAMESPACE"⟩,
    ⟨"cluster-role", "CLUSTER_ROLE"⟩,
    ⟨"service-account", "SERVICE_ACCOUNT"⟩,
    ⟨"helper-image", "HELPER_IMAGE"⟩,
    ⟨"helper-resources", "HELPER_RESOURCES"⟩,
    ⟨"storage-class", "STORAGE_CLASS"⟩,
    ⟨"disk-size", "DISK_SIZE"⟩,
    ⟨"pvc-access-mode", "PVC_ACCESS_MODE"⟩,
    ⟨"pvc-annotations", "PVC_ANNOTATIONS"⟩,
    ⟨"node-selector", "NODE_SELECTOR"⟩,
    ⟨"resources", "RESOURCES"⟩,
    ⟨"workspace-volume-mount", "WORKSPACE_VOLUME_MOUNT"⟩,
    ⟨"pod-manifest-template", "POD_MANIFEST_TEMPLATE"⟩,
    ⟨"arch-detection-pod-manifest-template", "ARCH_DETECTION_POD_MANIFEST_TEMPLATE"⟩,
    ⟨"labels", "LABELS"⟩,
    ⟨"dangerously-override-image", "DANGEROUSLY_OVERRIDE_IMAGE"⟩,
    ⟨"strict-security", "STRICT_SECURITY"⟩,
    ⟨"pod-timeout", "POD_TIMEOUT"⟩,
    ⟨"completed-pod-policy", "COMPLETED_POD_POLICY"⟩,
    reprovisioningFlag]

inductive Command where
  | run | start | stop | delete | find | command | targetArchitecture | renderTemplate | logs
  | canReprovision
  deriving DecidableEq, Repr

namespace Command

def all : List Command :=
  [.run, .start, .stop, .delete, .find, .command, .targetArchitecture, .renderTemplate, .logs,
    .canReprovision]

def name : Command → String
  | .run => "run"
  | .start => "start"
  | .stop => "stop"
  | .delete => "delete"
  | .find => "find"
  | .command => "command"
  | .targetArchitecture => "target-architecture"
  | .renderTemplate => "render-template"
  | .logs => "logs"
  | .canReprovision => "can-reprovision"

def ofName? (word : String) : Option Command := all.find? fun c => c.name == word

/-- The flags that only one command has. -/
def ownFlags : Command → List Flag
  | .run => [⟨"run-options", "DEVCONTAINER_RUN_OPTIONS"⟩]
  | .command =>
    [⟨"user", "DEVCONTAINER_USER"⟩, ⟨"command", "DEVCONTAINER_COMMAND"⟩,
      ⟨"legacy-command", "DEVCONTIANER_COMMAND"⟩]
  | .renderTemplate => [⟨"verbose", "DEVPOD_VERBOSE"⟩]
  | _ => []

def flags : Command → List Flag
  | .canReprovision => [reprovisioningFlag, workspaceFlag, debugFlag]
  | c => optionFlags ++ c.ownFlags ++ [debugFlag]

end Command

end PodWorkspace.CommandLine
