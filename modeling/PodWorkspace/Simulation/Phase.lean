import PodWorkspace.Cluster.Pod

/-! How a pod looks while it lives: the phases that a simulated cluster shows it in, one at each
observation. -/

namespace PodWorkspace.Simulation

open Cluster

inductive Phase where
  /-- The pod is removed. -/
  | gone
  /-- The pod as it is stored. -/
  | asIs
  | pending
  | terminating
  /-- All containers run, and are ready or not. -/
  | up (isReady : Bool)
  | completed
  | failed
  /-- All containers wait, for a reason. -/
  | waiting (reason : String)
  | status (s : PodStatus)
  /-- The observation fails. -/
  | error (message : String)

/-- The phase that a word names; any other word is a reason to wait. -/
def Phase.ofWord : String → Phase
  | "gone" => .gone
  | "as-is" => .asIs
  | "pending" => .pending
  | "terminating" => .terminating
  | "ready" => .up true
  | "running" => .up false
  | "completed" => .completed
  | "failed" => .failed
  | reason => .waiting reason

def inState (c : Container) (isReady : Bool) (state : ContainerState) : ContainerStatus where
  name := c.name
  ready := isReady
  started := some isReady
  state := some state

def ended (exitCode : Int) (reason : String) (message : Option String) : ContainerState where
  terminated := some { exitCode, reason := some reason, message }

def isUp : ContainerState where
  running := some []

def waits (reason : String) : ContainerState where
  waiting := some { reason := some reason, message := some s!"{reason} details" }

/-- A pod whose containers are in a state, after its init containers when they have run. -/
def withStates (pod : Pod) (initsRan isReady : Bool) (state : ContainerState) : Pod :=
  let spec := pod.spec.getD {}
  let inits := (spec.initContainers.getD []).map fun c =>
    inState c false (ended 0 "Completed" none)
  { pod with status := some {
      containerStatuses := some (spec.containers.map fun c => inState c isReady state)
      initContainerStatuses := if initsRan then some inits else none } }

/-- The pod as a phase shows it, unless that fails or the pod is gone. -/
def Phase.shown (p : Phase) (pod : Pod) : Except String (Option Pod) :=
  match p with
  | .gone => .ok none
  | .asIs => .ok (some pod)
  | .pending => .ok (some { pod with status := some { phase := some "Pending" } })
  | .terminating =>
    .ok (some { pod with metadata := { pod.metadata with deletionTimestamp := some ⟨0, 0⟩ } })
  | .up isReady => .ok (some (withStates pod true isReady isUp))
  | .completed => .ok (some (withStates pod true false (ended 0 "Completed" none)))
  | .failed => .ok (some (withStates pod true false (ended 2 "Error" (some "boom"))))
  | .waiting reason => .ok (some (withStates pod false false (waits reason)))
  | .status s => .ok (some { pod with status := some s })
  | .error message => .error message

end PodWorkspace.Simulation
