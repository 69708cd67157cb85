import PodWorkspace.Json.Reader
import PodWorkspace.Json.Record
import PodWorkspace.Json.Writer
import PodWorkspace.Options.Basic

/-! The snapshot of the options that a pod carries: a record that leaves out whatever is switched
off or not given. Two snapshots with the same text belong to equal options. -/

namespace PodWorkspace.ManifestOptions

def fields : List Json.Field :=
  ["pullSecretsEnabled", "createNamespace", "clusterRole", "serviceAccount", "helperImage",
    "helperResources", "storageClass", "diskSize", "pvcAccessMode", "pvcAnnotations",
    "nodeSelector", "resources", "workspaceVolumeMount", "podManifestTemplate",
    "archDetectionPodManifestTemplate", "labels", "dangerouslyOverrideImage",
    "strictSecurity"].map .plain

/-- The member for a switch, which is left out when it is off. -/
def switchMember (name : String) (on : Bool) : List (String × Json) :=
  if on then [(name, .bool true)] else []

def textMember (name : String) (value : Option String) : List (String × Json) :=
  Json.memberIfSome name Json.ofText value

def toJson (o : ManifestOptions) : Json :=
  .ofMembers <|
    switchMember "pullSecretsEnabled" o.pullSecretsEnabled ++
    switchMember "createNamespace" o.createNamespace ++
    textMember "clusterRole" o.clusterRole ++
    textMember "serviceAccount" o.serviceAccount ++
    textMember "helperImage" o.helperImage ++
    textMember "helperResources" o.helperResources ++
    textMember "storageClass" o.storageClass ++
    textMember "diskSize" o.diskSize ++
    textMember "pvcAccessMode" o.pvcAccessMode ++
    textMember "pvcAnnotations" o.pvcAnnotations ++
    textMember "nodeSelector" o.nodeSelector ++
    textMember "resources" o.resources ++
    textMember "workspaceVolumeMount" o.workspaceVolumeMount ++
    textMember "podManifestTemplate" o.podManifestTemplate ++
    textMember "archDetectionPodManifestTemplate" o.archDetectionPodManifestTemplate ++
    textMember "labels" o.labels ++
    textMember "dangerouslyOverrideImage" o.dangerouslyOverrideImage ++
    switchMember "strictSecurity" o.strictSecurity

def ofJson? (v : Json) : Option ManifestOptions := do
  let r ← Json.record? fields v
  let switch (name : String) : Option Bool := r.withDefault? name Json.bool? false
  let value (name : String) : Option (Option String) :=
    r.withDefault? name (Json.optional? Json.text?) none
  return {
    pullSecretsEnabled := ← switch "pullSecretsEnabled"
    createNamespace := ← switch "createNamespace"
    clusterRole := ← value "clusterRole"
    serviceAccount := ← value "serviceAccount"
    helperImage := ← value "helperImage"
    helperResources := ← value "helperResources"
    storageClass := ← value "storageClass"
    diskSize := ← value "diskSize"
    pvcAccessMode := ← value "pvcAccessMode"
    pvcAnnotations := ← value "pvcAnnotations"
    nodeSelector := ← value "nodeSelector"
    resources := ← value "resources"
    workspaceVolumeMount := ← value "workspaceVolumeMount"
    podManifestTemplate := ← value "podManifestTemplate"
    archDetectionPodManifestTemplate := ← value "archDetectionPodManifestTemplate"
    labels := ← value "labels"
    dangerouslyOverrideImage := ← value "dangerouslyOverrideImage"
    strictSecurity := ← switch "strictSecurity" }

def snapshot (o : ManifestOptions) : String :=
  o.toJson.render

def ofSnapshot (raw : String) : Except Failure ManifestOptions :=
  match (Json.read? raw).bind ofJson? with
  | some o => .ok o
  | none => .error (.undecodable "ComparableOptions")

end PodWorkspace.ManifestOptions
