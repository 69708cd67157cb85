import PodWorkspace.Cluster.Pod

/-! What the status of a single container means for a pod that is coming up. -/

namespace PodWorkspace.Readiness

open Cluster

/-- The reasons to wait that do not go away on their own. -/
def criticalReasons : List String :=
  ["Error", "Unknown", "ImagePullBackOff", "CrashLoopBackOff", "RunContainerError", "ErrImagePull",
    "CreateContainerConfigError", "InvalidImageName"]

inductive Outcome where
  | ready
  /-- The container runs but is not ready. -/
  | running
  | waitingTransient (reason message : String)
  | waitingCritical (reason message : String)
  | terminatedSuccess
  | terminatedFailure (exitCode : Int) (reason message : String)
  deriving DecidableEq, Repr

/-- The meaning of a status. One without a state counts as waiting. -/
def classify (status : ContainerStatus) : Outcome :=
  let state := status.state.getD {}
  match state.waiting, state.terminated, state.running with
  | some w, _, _ =>
    let reason := w.reason.getD ""
    let message := w.message.getD ""
    if criticalReasons.contains reason then .waitingCritical reason message
    else .waitingTransient reason message
  | none, some t, _ =>
    if t.exitCode = 0 then .terminatedSuccess
    else .terminatedFailure t.exitCode (t.reason.getD "") (t.message.getD "")
  | none, none, some _ => if status.ready then .ready else .running
  | none, none, none => .waitingTransient "" ""

end PodWorkspace.Readiness
