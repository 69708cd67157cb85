import PodWorkspace.Cluster.Shapes.Basic

/-! Shapes of what a container consists of. -/

namespace PodWorkspace.Cluster.Shapes

open Shape

def execAction : Shape := .record [optional "command" texts]

def httpGetAction : Shape :=
  .record [
    optional "host" .text,
    optional "httpHeaders" (.list (.record [required "name" .text, required "value" .text])),
    optional "path" .text, required "port" .intOrText, optional "scheme" .text]

def tcpSocketAction : Shape := .record [optional "host" .text, required "port" .intOrText]

def probe : Shape :=
  .record [
    optional "exec" execAction, optional "failureThreshold" .int32,
    optional "grpc" (.record [required "port" .int32, optional "service" .text]),
    optional "httpGet" httpGetAction, optional "initialDelaySeconds" .int32,
    optional "periodSeconds" .int32, optional "successThreshold" .int32,
    optional "tcpSocket" tcpSocketAction, optional "terminationGracePeriodSeconds" .int64,
    optional "timeoutSeconds" .int32]

/-- What happens after a container's start or before its stop. -/
def lifecycleHandler : Shape :=
  .record [
    optional "exec" execAction, optional "httpGet" httpGetAction,
    optional "sleep" (.record [required "seconds" .int64]),
    optional "tcpSocket" tcpSocketAction]

def containerPort : Shape :=
  .record [
    required "containerPort" .int32, optional "hostIP" .text, optional "hostPort" .int32,
    optional "name" .text, optional "protocol" .text]

def envFromSource : Shape :=
  let source : Shape := .record [required "name" .text, optional "optional" .bool]
  .record [optional "configMapRef" source, optional "prefix" .text, optional "secretRef" source]

def fieldRef : Shape := .record [optional "apiVersion" .text, required "fieldPath" .text]

def resourceFieldRef : Shape :=
  .record [optional "containerName" .text, optional "divisor" .text, required "resource" .text]

/-- A key of a map or a secret as a source of text. -/
def keySelector : Shape :=
  .record [required "key" .text, required "name" .text, optional "optional" .bool]

def envVarSource : Shape :=
  .record [
    optional "configMapKeyRef" keySelector, optional "fieldRef" fieldRef,
    optional "resourceFieldRef" resourceFieldRef, optional "secretKeyRef" keySelector]

def seLinuxOptions : Shape :=
  .record [
    optional "level" .text, optional "role" .text, optional "type" .text, optional "user" .text]

def securityProfile : Shape := .record [optional "localhostProfile" .text, required "type" .text]

def windowsOptions : Shape :=
  .record [
    optional "gmsaCredentialSpec" .text, optional "gmsaCredentialSpecName" .text,
    optional "hostProcess" .bool, optional "runAsUserName" .text]

/-- The members of a container's security context that the provider only carries along. -/
def carriedSecurityContext : List (String × Bool × Shape) :=
  [optional "allowPrivilegeEscalation" .bool, optional "appArmorProfile" securityProfile,
    optional "procMount" .text, optional "readOnlyRootFilesystem" .bool,
    optional "seLinuxOptions" seLinuxOptions, optional "seccompProfile" securityProfile,
    optional "windowsOptions" windowsOptions]

/-- The members of a volume mount that the provider only carries along. -/
def carriedVolumeMount : List (String × Bool × Shape) :=
  [optional "mountPropagation" .text, optional "readOnly" .bool,
    optional "recursiveReadOnly" .text, optional "subPathExpr" .text]

/-- The members of a container that the provider only carries along. -/
def carriedContainer : List (String × Bool × Shape) :=
  [optional "lifecycle" (.record [
      optional "postStart" lifecycleHandler, optional "preStop" lifecycleHandler]),
    optional "livenessProbe" probe, optional "readinessProbe" probe,
    optional "resizePolicy" (.list (.record [
      required "resourceName" .text, required "restartPolicy" .text])),
    optional "startupProbe" probe, optional "stdin" .bool, optional "stdinOnce" .bool,
    optional "terminationMessagePath" .text, optional "terminationMessagePolicy" .text,
    optional "tty" .bool,
    optional "volumeDevices" (.list (.record [required "devicePath" .text, required "name" .text])),
    optional "workingDir" .text]

def ephemeralContainer : Shape :=
  .record (carriedContainer ++ [
    optional "args" texts, optional "command" texts,
    optional "env" (.list (.record [
      required "name" .text, optional "value" .text, optional "valueFrom" envVarSource])),
    optional "envFrom" (.list envFromSource), optional "image" .text,
    optional "imagePullPolicy" .text, required "name" .text,
    optional "ports" (.list containerPort), optional "resources" resourceRequirements,
    optional "restartPolicy" .text,
    optional "securityContext" (.record (carriedSecurityContext ++ [
      optional "capabilities" (.record [optional "add" texts, optional "drop" texts]),
      optional "privileged" .bool, optional "runAsGroup" .int64, optional "runAsNonRoot" .bool,
      optional "runAsUser" .int64])),
    optional "targetContainerName" .text,
    optional "volumeMounts" (.list (.record (carriedVolumeMount ++ [
      required "mountPath" .text, required "name" .text, optional "subPath" .text])))])

end PodWorkspace.Cluster.Shapes
