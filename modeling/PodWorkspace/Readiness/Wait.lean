import PodWorkspace.Cluster.Request
import PodWorkspace.Readiness.Tick
import PodWorkspace.Time.Throttle

/-! Waiting for a pod to come up. The pod is looked at at once and then every second, until an
observation decides or the deadline has passed. The number of observations is bounded by the
deadline, since each comes at least a second after the one before. -/

namespace PodWorkspace.Readiness

open Cluster

/-- How a wait ends without a failure. -/
inductive WaitEnd where
  | ready (pod : Pod)
  | exited (pod : Pod)
  | gone

/-- Whether all containers came up. -/
def WaitEnd.isReady : WaitEnd → Bool
  | .ready _ => true
  | _ => false

def pollInterval : Duration := .ofSeconds 1

/-- How late an observation may come without moving those after it. -/
def pollTolerance : Duration := .ofMillis 5

/-- The interval between two messages about a pod that is not up yet. -/
def messageInterval : Duration := .ofSeconds 5

/-- The time of the observation after one that was due at `due` and is made at `now`. -/
def nextPoll (due now : Duration) : Duration :=
  if due + pollTolerance < now then now + pollInterval else due + pollInterval

def pendingEvent (name : String) (pod : Option Pod) (reason : String) : Event :=
  let conditions := (pod.map falseConditions).getD []
  ⟨.info, Text.join "; " (conditions ++ [reason]), [("pod", name)]⟩

def timedOut (name : String) (timeout : Duration) : Failure := .timeout name timeout

/-- One look at the pod when it is due: the time of the look, and the pod. -/
def observe (name : String) (due : Duration) : Action (Duration × Option Pod) := do
  .cancellable s!"wait for pod {name}" (.sleepUntil due)
  let observed ← .now
  let pod ← .cancellable "get pod" (.ask (I := interface) (.getPod name))
  return (observed, pod)

/-- Tells why a pod is not up yet, unless that was told a moment ago. -/
def tellPending (name : String) (pod : Option Pod) (reason : String) (throttle : Throttle) :
    Action Throttle := do
  let now ← .now
  let (isAllowed, throttle) := throttle.allowAt now
  if isAllowed then .note (pendingEvent name pod reason)
  return throttle

/-- Goes on with a wait unless its deadline has passed. -/
def unlessLate (name : String) (timeout started : Duration) (next : Action WaitEnd) :
    Action WaitEnd := do
  let now ← .now
  if started + timeout ≤ now then .fail (timedOut name timeout) else next

/-- At most `polls` further observations, the first of which is due at `due`. -/
def poll (name : String) (timeout : Duration) (policy : CompletedPodPolicy) (started : Duration) :
    (polls : Nat) → (due : Duration) → Throttle → Action WaitEnd
  -- Observations are a second apart, so that by then the deadline has passed.
  | 0, _, _ => .fail (timedOut name timeout)
  | polls + 1, due, throttle => do
    let (observed, pod) ← observe name due
    let next := poll name timeout policy started polls (nextPoll due observed)
    match tick pod policy, pod with
    | .ready, some pod => return .ready pod
    | .exited, some pod => do
      .note ⟨.info, "Pod has completed", [("pod", name)]⟩
      return .exited pod
    | .gone, _ => do
      .note ⟨.debug, "Pod is gone", [("pod", name)]⟩
      return .gone
    -- Without a pod the decision is `gone`, so neither of these comes up.
    | .ready, none | .exited, none => return .gone
    | .critical container reason message, _ =>
      .fail (.criticalWorkload name container reason message)
    | .recycle container, _ => do
      .note ⟨.debug, "Delete pod because it has completed", [("pod", name), ("container", container)]⟩
      .cancellable "delete pod" (.ask (I := interface) (.deletePod name))
      unlessLate name timeout started (next throttle)
    | .pending reason, pod => do
      unlessLate name timeout started (next (← tellPending name pod reason throttle))

def wait (name : String) (timeout : Duration) (policy : CompletedPodPolicy) : Action WaitEnd := do
  let started ← .now
  poll name timeout policy started (timeout.secondsUp + 1) started
    (.startingAt started messageInterval)

end PodWorkspace.Readiness
