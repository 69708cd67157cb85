import PodWorkspace.Cluster.Pod
import PodWorkspace.Program.Basic

/-! Deleting a pod so that it is gone afterwards: it is looked up and deleted by its name, and then
looked up every second until it is not found or has been replaced. How it is looked up and deleted is
left open. -/

namespace PodWorkspace.Cluster

variable {I : Interface}

/-- The time between two lookups of a pod that is being deleted. -/
def deletionPollInterval : Duration := .ofSeconds 1

/-- At most `lookups` lookups, a second apart, of a pod that is being deleted. A pod of the same name
with another uid is a new one. With one for each second until a deadline, one at the beginning and one
at the end, the deadline cuts the wait off before they are used up. -/
def awaitDeletion (find : Program I (Option Pod)) (name : String) (uid : Option String) :
    (lookups : Nat) → Program I Unit
  | 0 => .cutOff
  | lookups + 1 => do
    match ← find with
    | none => return ()
    | some pod =>
      if pod.metadata.uid ≠ uid then return ()
      else do
        .note ⟨.trace, "Waiting for pod deletion", [("pod", name)]⟩
        .sleepUntil ((← .now) + deletionPollInterval)
        awaitDeletion find name uid lookups

def stillPresent (name : String) (timeout : Duration) : Failure :=
  .ofCommand s!"delete pod {name}" s!"pod still present after {timeout.text}"

def deletePodAndWait (find : Program I (Option Pod)) (delete : Program I Unit) (name : String)
    (timeout : Duration) : Program I Unit := do
  match ← find with
  | none => return ()
  | some existing => do
    delete
    let deadline := (← .now) + timeout
    let late : Program I Unit := do
      if deadline ≤ (← .now) then .fail (stillPresent name timeout) else .cutOff
    .orElseCut late
      (.within deadline (awaitDeletion find name existing.metadata.uid (timeout.secondsUp + 2)))

end PodWorkspace.Cluster
