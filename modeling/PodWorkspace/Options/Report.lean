import PodWorkspace.Options.Basic

/-! The options as a report for the user, one line for each. -/

namespace PodWorkspace

def switchText (on : Bool) : String := if on then "true" else "false"

def Options.reportLines (o : Options) : List (String × String) :=
  let m := o.manifest
  let c := o.connection
  let shown (value : Option String) : String := value.getD ""
  [("DevContainerID", o.workspaceId),
    ("Namespace", shown c.namespace),
    ("Context", shown c.context),
    ("KubeConfig", shown c.kubeconfig),
    ("KubernetesPullSecretsEnabled", switchText m.pullSecretsEnabled),
    ("CreateNamespace", switchText m.createNamespace),
    ("ClusterRole", shown m.clusterRole),
    ("ServiceAccount", shown m.serviceAccount),
    ("HelperImage", shown m.helperImage),
    ("HelperResources", shown m.helperResources),
    ("StorageClass", shown m.storageClass),
    ("DiskSize", shown m.diskSize),
    ("PvcAccessMode", shown m.pvcAccessMode),
    ("PvcAnnotations", shown m.pvcAnnotations),
    ("NodeSelector", shown m.nodeSelector),
    ("Resources", shown m.resources),
    ("WorkspaceVolumeMount", shown m.workspaceVolumeMount),
    ("PodManifestTemplate", shown m.podManifestTemplate),
    ("ArchDetectionPodManifestTemplate", shown m.archDetectionPodManifestTemplate),
    ("Labels", shown m.labels),
    ("DangerouslyOverrideImage", shown m.dangerouslyOverrideImage),
    ("StrictSecurity", switchText m.strictSecurity),
    ("PodTimeout", o.podTimeout.text),
    ("CompletedPodPolicy", o.completedPodPolicy.text)]

def Options.report (o : Options) : String :=
  Text.join "\n" (o.reportLines.map fun (name, value) => s!"{name}: {value}")

end PodWorkspace
