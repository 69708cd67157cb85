import PodWorkspace.Document.Shape

/-! Shapes that several kinds of API objects share: metadata, label selectors, references and
resource amounts. -/

namespace PodWorkspace.Cluster.Shapes

open Shape

def texts : Shape := .list .text

/-- A map to texts, also one to amounts, which are texts. -/
def textMap : Shape := .dict .text

/-- The members of an object's metadata that the provider only carries along. -/
def carriedMeta : List (String × Bool × Shape) :=
  [optional "deletionGracePeriodSeconds" .int64,
    optional "finalizers" texts,
    optional "generateName" .text,
    optional "generation" .int64,
    optional "managedFields" (.list (.record [
      optional "apiVersion" .text, optional "fieldsType" .text, optional "fieldsV1" .any,
      optional "manager" .text, optional "operation" .text, optional "subresource" .text,
      optional "time" .time])),
    optional "ownerReferences" (.list (.record [
      required "apiVersion" .text, optional "blockOwnerDeletion" .bool,
      optional "controller" .bool, required "kind" .text, required "name" .text,
      required "uid" .text])),
    optional "resourceVersion" .text,
    optional "selfLink" .text]

def objectMeta : Shape :=
  .record (carriedMeta ++ [
    optional "annotations" textMap, optional "creationTimestamp" .time,
    optional "deletionTimestamp" .time, optional "labels" textMap, optional "name" .text,
    optional "namespace" .text, optional "uid" .text])

def localReference : Shape := .record [required "name" .text]

def labelSelector : Shape :=
  .record [
    optional "matchExpressions" (.list (.record [
      required "key" .text, required "operator" .text, optional "values" texts])),
    optional "matchLabels" textMap]

/-- The amounts that a container asks for, and those that it may use. -/
def resourceRequirements : Shape :=
  .record [
    optional "claims" (.list (.record [required "name" .text, optional "request" .text])),
    optional "limits" textMap, optional "requests" textMap]

/-- The members of the specification of a volume claim that the provider only carries along. -/
def carriedClaimSpec : List (String × Bool × Shape) :=
  [optional "dataSource" (.record [
      optional "apiGroup" .text, required "kind" .text, required "name" .text]),
    optional "dataSourceRef" (.record [
      optional "apiGroup" .text, required "kind" .text, required "name" .text,
      optional "namespace" .text]),
    optional "selector" labelSelector,
    optional "volumeAttributesClassName" .text,
    optional "volumeMode" .text,
    optional "volumeName" .text]

def claimSpec : Shape :=
  .record (carriedClaimSpec ++ [
    optional "accessModes" texts,
    optional "resources" (.record [optional "limits" textMap, optional "requests" textMap]),
    optional "storageClassName" .text])

def claimStatus : Shape :=
  .record [
    optional "accessModes" texts,
    optional "allocatedResourceStatuses" textMap,
    optional "allocatedResources" textMap,
    optional "capacity" textMap,
    optional "conditions" (.list (.record [
      optional "lastProbeTime" .time, optional "lastTransitionTime" .time,
      optional "message" .text, optional "reason" .text, required "status" .text,
      required "type" .text])),
    optional "currentVolumeAttributesClassName" .text,
    optional "modifyVolumeStatus" (.record [
      required "status" .text, optional "targetVolumeAttributesClassName" .text]),
    optional "phase" .text]

end PodWorkspace.Cluster.Shapes
