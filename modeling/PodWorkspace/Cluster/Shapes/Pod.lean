import PodWorkspace.Cluster.Shapes.Container

/-! Shapes of the specification and the status of a pod, beside its containers and volumes. -/

namespace PodWorkspace.Cluster.Shapes

open Shape

/-- Requirements on the labels or fields of nodes. -/
def nodeRequirements : Shape :=
  .list (.record [required "key" .text, required "operator" .text, optional "values" texts])

def nodeSelectorTerm : Shape :=
  .record [optional "matchExpressions" nodeRequirements, optional "matchFields" nodeRequirements]

def podAffinityTerm : Shape :=
  .record [
    optional "labelSelector" labelSelector, optional "matchLabelKeys" texts,
    optional "mismatchLabelKeys" texts, optional "namespaceSelector" labelSelector,
    optional "namespaces" texts, required "topologyKey" .text]

def weightedPodAffinityTerms : Shape :=
  .list (.record [required "podAffinityTerm" podAffinityTerm, required "weight" .int32])

/-- The members of an affinity that the provider only carries along. -/
def carriedAffinity : List (String × Bool × Shape) :=
  [optional "nodeAffinity" (.record [
      optional "preferredDuringSchedulingIgnoredDuringExecution" (.list (.record [
        required "preference" nodeSelectorTerm, required "weight" .int32])),
      optional "requiredDuringSchedulingIgnoredDuringExecution" (.record [
        required "nodeSelectorTerms" (.list nodeSelectorTerm)])]),
    optional "podAntiAffinity" (.record [
      optional "preferredDuringSchedulingIgnoredDuringExecution" weightedPodAffinityTerms,
      optional "requiredDuringSchedulingIgnoredDuringExecution" (.list podAffinityTerm)])]

/-- The members of a pod's specification that the provider only carries along. -/
def carriedPodSpec : List (String × Bool × Shape) :=
  [optional "activeDeadlineSeconds" .int64,
    optional "automountServiceAccountToken" .bool,
    optional "dnsConfig" (.record [
      optional "nameservers" texts,
      optional "options" (.list (.record [optional "name" .text, optional "value" .text])),
      optional "searches" texts]),
    optional "dnsPolicy" .text,
    optional "enableServiceLinks" .bool,
    optional "ephemeralContainers" (.list ephemeralContainer),
    optional "hostAliases" (.list (.record [optional "hostnames" texts, required "ip" .text])),
    optional "hostIPC" .bool,
    optional "hostNetwork" .bool,
    optional "hostPID" .bool,
    optional "hostUsers" .bool,
    optional "hostname" .text,
    optional "nodeName" .text,
    optional "os" (.record [required "name" .text]),
    optional "overhead" textMap,
    optional "preemptionPolicy" .text,
    optional "priority" .int32,
    optional "priorityClassName" .text,
    optional "readinessGates" (.list (.record [required "conditionType" .text])),
    optional "resourceClaims" (.list (.record [
      required "name" .text, optional "resourceClaimName" .text,
      optional "resourceClaimTemplateName" .text])),
    optional "resources" resourceRequirements,
    optional "runtimeClassName" .text,
    optional "schedulerName" .text,
    optional "schedulingGates" (.list (.record [required "name" .text])),
    optional "securityContext" (.record [
      optional "appArmorProfile" securityProfile, optional "fsGroup" .int64,
      optional "fsGroupChangePolicy" .text, optional "runAsGroup" .int64,
      optional "runAsNonRoot" .bool, optional "runAsUser" .int64,
      optional "seLinuxChangePolicy" .text, optional "seLinuxOptions" seLinuxOptions,
      optional "seccompProfile" securityProfile, optional "supplementalGroups" (.list .int64),
      optional "supplementalGroupsPolicy" .text,
      optional "sysctls" (.list (.record [required "name" .text, required "value" .text])),
      optional "windowsOptions" windowsOptions]),
    optional "serviceAccount" .text,
    optional "setHostnameAsFQDN" .bool,
    optional "shareProcessNamespace" .bool,
    optional "subdomain" .text,
    optional "terminationGracePeriodSeconds" .int64,
    optional "tolerations" (.list (.record [
      optional "effect" .text, optional "key" .text, optional "operator" .text,
      optional "tolerationSeconds" .int64, optional "value" .text])),
    optional "topologySpreadConstraints" (.list (.record [
      optional "labelSelector" labelSelector, optional "matchLabelKeys" texts,
      required "maxSkew" .int32, optional "minDomains" .int32,
      optional "nodeAffinityPolicy" .text, optional "nodeTaintsPolicy" .text,
      required "topologyKey" .text, required "whenUnsatisfiable" .text]))]

/-- The state of a container, where only its own status is looked at. -/
def containerState : Shape :=
  .record [
    optional "running" (.record [optional "startedAt" .time]),
    optional "terminated" (.record [
      optional "containerID" .text, required "exitCode" .int32, optional "finishedAt" .time,
      optional "message" .text, optional "reason" .text, optional "signal" .int32,
      optional "startedAt" .time]),
    optional "waiting" (.record [optional "message" .text, optional "reason" .text])]

/-- The members of a container's status that the provider only carries along. -/
def carriedContainerStatus : List (String × Bool × Shape) :=
  [optional "allocatedResources" textMap,
    optional "allocatedResourcesStatus" (.list (.record [
      required "name" .text,
      optional "resources" (.list (.record [
        optional "health" .text, required "resourceID" .text]))])),
    optional "containerID" .text,
    required "image" .text,
    required "imageID" .text,
    optional "lastState" containerState,
    optional "resources" resourceRequirements,
    required "restartCount" .int32,
    optional "user" (.record [
      optional "linux" (.record [
        required "gid" .int64, optional "supplementalGroups" (.list .int64),
        required "uid" .int64])]),
    optional "volumeMounts" (.list (.record [
      required "mountPath" .text, required "name" .text, optional "readOnly" .bool,
      optional "recursiveReadOnly" .text]))]

/-- The members of a pod's condition that the provider only carries along. -/
def carriedCondition : List (String × Bool × Shape) :=
  [optional "lastProbeTime" .time, optional "lastTransitionTime" .time]

/-- The members of a pod's status that the provider only carries along. -/
def carriedPodStatus : List (String × Bool × Shape) :=
  [optional "ephemeralContainerStatuses" (.list (.record (carriedContainerStatus ++ [
      required "name" .text, required "ready" .bool, optional "started" .bool,
      optional "state" containerState]))),
    optional "hostIP" .text,
    optional "hostIPs" (.list (.record [required "ip" .text])),
    optional "message" .text,
    optional "nominatedNodeName" .text,
    optional "podIP" .text,
    optional "podIPs" (.list (.record [required "ip" .text])),
    optional "qosClass" .text,
    optional "reason" .text,
    optional "resize" .text,
    optional "resourceClaimStatuses" (.list (.record [
      required "name" .text, optional "resourceClaimName" .text])),
    optional "startTime" .time]

end PodWorkspace.Cluster.Shapes
