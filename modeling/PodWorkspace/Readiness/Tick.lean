import PodWorkspace.Options.Basic
import PodWorkspace.Readiness.Outcome

/-! The decision that one observation of a pod leads to. The init containers are looked at first and
then the containers, each in the order in which the cluster reports them, and the first one that is
not up decides. -/

namespace PodWorkspace.Readiness

open Cluster

inductive Tick where
  /-- There is no pod. -/
  | gone
  /-- All containers are up. -/
  | ready
  /-- The wait goes on, for a reason. -/
  | pending (reason : String)
  /-- A container has finished, and the pod has to be deleted. -/
  | recycle (container : String)
  /-- A container has finished, and that is reported. -/
  | exited
  /-- A container is in a state that it does not leave on its own. -/
  | critical (container reason message : String)
  deriving DecidableEq, Repr

/-- Whether an init container is declared to run beside the others. -/
def isSidecar (declared : List Container) (name : String) : Bool :=
  ((declared.find? (·.name == name)).bind (·.restartPolicy)) == some "Always"

/-- The decision that an init container leads to, unless it has done its work. -/
def initTick (pod : String) (declared : List Container) (status : ContainerStatus) : Option Tick :=
  let name := status.name
  let waiting (why : String) : Tick :=
    .pending s!"Waiting, since pod '{pod}' init container '{name}' is {why}"
  match classify status with
  | .waitingCritical reason message => some (.critical name reason message)
  | .terminatedFailure _ reason message => some (.critical name reason message)
  | .waitingTransient reason message => some (waiting s!"waiting to start: {message} ({reason})")
  | outcome =>
    if isSidecar declared name then
      if status.started = some true && status.ready then none else some (waiting "not ready yet")
    else if outcome = .terminatedSuccess then none
    else some (waiting "running")

/-- The decision that a container leads to, unless it is up. -/
def containerTick (pod : String) (policy : CompletedPodPolicy) (status : ContainerStatus) :
    Option Tick :=
  let name := status.name
  let waiting (why : String) : Tick :=
    .pending s!"Waiting, since pod '{pod}' container '{name}' is {why}"
  match classify status with
  | .ready => none
  | .terminatedSuccess =>
    match policy with
    | .restart => some (.recycle name)
    | .exit => some .exited
  | .waitingCritical reason message => some (.critical name reason message)
  | .terminatedFailure _ reason message => some (.critical name reason message)
  | .waitingTransient reason message => some (waiting s!"waiting to start: {message} ({reason})")
  | .running => some (waiting "not ready yet")

def containerStatuses (pod : Pod) : List ContainerStatus :=
  (pod.status.bind (·.containerStatuses)).getD []

def initStatuses (pod : Pod) : List ContainerStatus :=
  (pod.status.bind (·.initContainerStatuses)).getD []

def declaredContainers (pod : Pod) : List Container :=
  (pod.spec.map (·.containers)).getD []

def declaredInits (pod : Pod) : List Container :=
  (pod.spec.bind (·.initContainers)).getD []

def tick (pod : Option Pod) (policy : CompletedPodPolicy) : Tick :=
  match pod with
  | none => .gone
  | some pod =>
    if pod.metadata.deletionTimestamp.isSome then
      .pending s!"Waiting, since pod '{pod.name}' is terminating"
    else if (containerStatuses pod).length < (declaredContainers pod).length then
      .pending s!"Waiting, since pod '{pod.name}' is starting"
    else
      ((initStatuses pod).findSome? (initTick pod.name (declaredInits pod))).getD
        (((containerStatuses pod).findSome? (containerTick pod.name policy)).getD .ready)

def conditionLines (c : PodCondition) : List String :=
  let detail (label : String) (value : Option String) : List String :=
    match value.filter fun s => !s.isEmpty with
    | some s => [s!"{c.type} {label}: {s}"]
    | none => []
  [s!"Condition \"{c.type}\" is False"] ++ detail "Reason" c.reason ++ detail "Message" c.message

def falseConditions (pod : Pod) : List String :=
  (((pod.status.bind (·.conditions)).getD []).filter (·.status == "False")).flatMap conditionLines

end PodWorkspace.Readiness
