import PodWorkspace.Cluster.Shapes.Container

/-! Shapes of the kinds of volumes that a pod can mount. -/

namespace PodWorkspace.Cluster.Shapes

open Shape

def keyToPaths : Shape :=
  .list (.record [required "key" .text, optional "mode" .int32, required "path" .text])

def downwardItems : Shape :=
  .list (.record [
    optional "fieldRef" fieldRef, optional "mode" .int32, required "path" .text,
    optional "resourceFieldRef" resourceFieldRef])

def projection : Shape :=
  let source : Shape := .record [
    optional "items" keyToPaths, required "name" .text, optional "optional" .bool]
  .record [
    optional "clusterTrustBundle" (.record [
      optional "labelSelector" labelSelector, optional "name" .text, optional "optional" .bool,
      required "path" .text, optional "signerName" .text]),
    optional "configMap" source,
    optional "downwardAPI" (.record [optional "items" downwardItems]),
    optional "secret" source,
    optional "serviceAccountToken" (.record [
      optional "audience" .text, optional "expirationSeconds" .int64, required "path" .text])]

/-- The members of a volume that the provider only carries along. -/
def carriedVolume : List (String × Bool × Shape) :=
  [optional "awsElasticBlockStore" (.record [
      optional "fsType" .text, optional "partition" .int32, optional "readOnly" .bool,
      required "volumeID" .text]),
    optional "azureDisk" (.record [
      optional "cachingMode" .text, required "diskName" .text, required "diskURI" .text,
      optional "fsType" .text, optional "kind" .text, optional "readOnly" .bool]),
    optional "azureFile" (.record [
      optional "readOnly" .bool, required "secretName" .text, required "shareName" .text]),
    optional "cephfs" (.record [
      required "monitors" texts, optional "path" .text, optional "readOnly" .bool,
      optional "secretFile" .text, optional "secretRef" localReference, optional "user" .text]),
    optional "cinder" (.record [
      optional "fsType" .text, optional "readOnly" .bool, optional "secretRef" localReference,
      required "volumeID" .text]),
    optional "configMap" (.record [
      optional "defaultMode" .int32, optional "items" keyToPaths, required "name" .text,
      optional "optional" .bool]),
    optional "csi" (.record [
      required "driver" .text, optional "fsType" .text,
      optional "nodePublishSecretRef" localReference, optional "readOnly" .bool,
      optional "volumeAttributes" textMap]),
    optional "downwardAPI" (.record [
      optional "defaultMode" .int32, optional "items" downwardItems]),
    optional "emptyDir" (.record [optional "medium" .text, optional "sizeLimit" .text]),
    optional "ephemeral" (.record [
      optional "volumeClaimTemplate" (.record [
        optional "metadata" objectMeta, required "spec" claimSpec])]),
    optional "fc" (.record [
      optional "fsType" .text, optional "lun" .int32, optional "readOnly" .bool,
      optional "targetWWNs" texts, optional "wwids" texts]),
    optional "flexVolume" (.record [
      required "driver" .text, optional "fsType" .text, optional "options" textMap,
      optional "readOnly" .bool, optional "secretRef" localReference]),
    optional "flocker" (.record [optional "datasetName" .text, optional "datasetUUID" .text]),
    optional "gcePersistentDisk" (.record [
      optional "fsType" .text, optional "partition" .int32, required "pdName" .text,
      optional "readOnly" .bool]),
    optional "gitRepo" (.record [
      optional "directory" .text, required "repository" .text, optional "revision" .text]),
    optional "glusterfs" (.record [
      required "endpoints" .text, required "path" .text, optional "readOnly" .bool]),
    optional "hostPath" (.record [required "path" .text, optional "type" .text]),
    optional "image" (.record [optional "pullPolicy" .text, optional "reference" .text]),
    optional "iscsi" (.record [
      optional "chapAuthDiscovery" .bool, optional "chapAuthSession" .bool,
      optional "fsType" .text, optional "initiatorName" .text, required "iqn" .text,
      optional "iscsiInterface" .text, required "lun" .int32, optional "portals" texts,
      optional "readOnly" .bool, optional "secretRef" localReference,
      required "targetPortal" .text]),
    optional "nfs" (.record [
      required "path" .text, optional "readOnly" .bool, required "server" .text]),
    optional "photonPersistentDisk" (.record [optional "fsType" .text, required "pdID" .text]),
    optional "portworxVolume" (.record [
      optional "fsType" .text, optional "readOnly" .bool, required "volumeID" .text]),
    optional "projected" (.record [
      optional "defaultMode" .int32, optional "sources" (.list projection)]),
    optional "quobyte" (.record [
      optional "group" .text, optional "readOnly" .bool, required "registry" .text,
      optional "tenant" .text, optional "user" .text, required "volume" .text]),
    optional "rbd" (.record [
      optional "fsType" .text, required "image" .text, optional "keyring" .text,
      required "monitors" texts, optional "pool" .text, optional "readOnly" .bool,
      optional "secretRef" localReference, optional "user" .text]),
    optional "scaleIO" (.record [
      optional "fsType" .text, required "gateway" .text, optional "protectionDomain" .text,
      optional "readOnly" .bool, required "secretRef" localReference,
      optional "sslEnabled" .bool, optional "storageMode" .text, optional "storagePool" .text,
      required "system" .text, optional "volumeName" .text]),
    optional "secret" (.record [
      optional "defaultMode" .int32, optional "items" keyToPaths, optional "optional" .bool,
      optional "secretName" .text]),
    optional "storageos" (.record [
      optional "fsType" .text, optional "readOnly" .bool, optional "secretRef" localReference,
      optional "volumeName" .text, optional "volumeNamespace" .text]),
    optional "vsphereVolume" (.record [
      optional "fsType" .text, optional "storagePolicyID" .text,
      optional "storagePolicyName" .text, required "volumePath" .text])]

end PodWorkspace.Cluster.Shapes
