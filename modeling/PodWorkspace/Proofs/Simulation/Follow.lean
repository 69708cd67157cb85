import PodWorkspace.Proofs.Simulation.Serves

/-! One run of a program for each way to answer it. It is computed, so that the runs of a workspace
in a simulated cluster can be looked at; a small workspace stands at the end for that. -/

namespace PodWorkspace

open Cluster

namespace Program

variable {I : Interface} {σ α : Type}

/-- A run that was followed: its steps, its ending and the state that is left. -/
structure Followed (I : Interface) (σ α : Type) where
  steps : List (Step I)
  ending : Result α
  state : σ

/-- A run that begins with one more step. -/
def Followed.after (step : Step I) (f : Followed I σ α) : Followed I σ α :=
  { f with steps := step :: f.steps }

/-- Follows a program in a world that answers from a state. The clock stands still, and sleeps are
long enough. -/
def follow (answer : σ → (r : I.Request) → Result (I.Answer r) × σ) (s : σ) :
    Program I α → Followed I σ α
  | .done a => ⟨[], some (.ok a), s⟩
  | .fail f => ⟨[], some (.error f), s⟩
  | .cutOff => ⟨[], none, s⟩
  | .log _ rest => follow answer s rest
  | .call _ request next =>
    (follow answer (answer s request).2 (next (answer s request).1)).after
      (.call request (answer s request).1)
  | .clock next => (follow answer s (next ⟨0⟩)).after (.clock ⟨0⟩)
  | .sleep _ till next => (follow answer s (next true)).after (.sleep till true)

/-- Whether a run that was followed has succeeded. -/
def Followed.succeeds (f : Followed I σ Unit) : Bool :=
  match f.ending with
  | some (.ok _) => true
  | _ => false

theorem Followed.ending_of_succeeds {f : Followed I σ Unit} (h : f.succeeds = true) :
    f.ending = some (.ok ()) := by
  unfold succeeds at h
  split at h
  · assumption
  · cases h

/-- The value with which a run that was followed has ended, if it has. -/
def Followed.value? (f : Followed I σ α) : Option α :=
  match f.ending with
  | some (.ok a) => some a
  | _ => none

theorem Followed.ending_of_value {f : Followed I σ α} {a : α} (h : f.value? = some a) :
    f.ending = some (.ok a) := by
  unfold value? at h
  split at h
  · rename_i hEnding
    cases h
    exact hEnding
  · cases h

/-- The failure with which a run that was followed has ended, if it has. -/
def Followed.failure? (f : Followed I σ α) : Option Failure :=
  match f.ending with
  | some (.error e) => some e
  | _ => none

theorem Followed.ending_of_failure {f : Followed I σ α} {e : Failure} (h : f.failure? = some e) :
    f.ending = some (.error e) := by
  unfold failure? at h
  split at h
  · rename_i hEnding
    cases h
    exact hEnding
  · cases h

theorem runs_follow (answer : σ → (r : I.Request) → Result (I.Answer r) × σ) (s : σ)
    (x : Program I α) : Runs x (follow answer s x).steps (follow answer s x).ending := by
  induction x generalizing s with
  | done a => exact .done a
  | fail f => exact .fail f
  | cutOff => exact .cutOff
  | log e rest ih => exact .log (ih s)
  | call deadline request next ih => exact .call _ (ih _ _)
  | clock next ih => exact .clock _ (ih _ _)
  | sleep deadline till next ih => exact .sleep _ (ih _ _)

end Program

namespace Simulation

open Program

variable {α : Type}

/-- Follows a program in a simulated cluster that answers every call. -/
def Store.follow (s : Store) (around : Surroundings) (x : Action α) : Followed interface Store α :=
  Program.follow (fun s r => (some (s.answer around r).1, (s.answer around r).2)) s x

theorem Store.runs_follow (s : Store) (around : Surroundings) (x : Action α) :
    Runs x (s.follow around x).steps (s.follow around x).ending :=
  Program.runs_follow _ s x

theorem Store.serves_follow (s : Store) (around : Surroundings) (x : Action α) :
    Serves around s (s.follow around x).steps (s.follow around x).state := by
  unfold follow
  induction x generalizing s with
  | done a => exact .nil s
  | fail f => exact .nil s
  | cutOff => exact .nil s
  | log e rest ih => exact ih s
  | call deadline request next ih => exact .call (ih _ _)
  | clock next ih => exact .clock (ih _ _)
  | sleep deadline till next ih => exact .sleep (ih _ _)

/-- The first pod that is created in some steps. -/
def firstPod? (steps : List (Step interface)) : Option Pod :=
  steps.findSome? fun
    | .call (.createPod pod) (some (.ok _)) => some pod
    | _ => none

theorem mem_of_firstPod {steps : List (Step interface)} {pod : Pod} (h : firstPod? steps = some pod) :
    .call (.createPod pod) (some (.ok ())) ∈ steps := by
  obtain ⟨step, hMem, hStep⟩ := List.exists_of_findSome?_eq_some h
  split at hStep
  · cases hStep
    exact hMem
  · cases hStep

theorem not_mem_of_firstPod {steps : List (Step interface)} (h : firstPod? steps = none) {pod : Pod} :
    .call (.createPod pod) (some (.ok ())) ∉ steps := by
  intro hMem
  cases List.findSome?_eq_none_iff.1 h _ hMem

/-- The first claim that is created in some steps. -/
def firstClaim? (steps : List (Step interface)) : Option VolumeClaim :=
  steps.findSome? fun
    | .call (.createClaim claim) (some (.ok _)) => some claim
    | _ => none

theorem mem_of_firstClaim {steps : List (Step interface)} {claim : VolumeClaim}
    (h : firstClaim? steps = some claim) : .call (.createClaim claim) (some (.ok ())) ∈ steps := by
  obtain ⟨step, hMem, hStep⟩ := List.exists_of_findSome?_eq_some h
  split at hStep
  · cases hStep
    exact hMem
  · cases hStep

end Simulation

/-! ### A workspace to look at -/

/-- A workspace with a service account and a pull secret. -/
def Workspace.notes : Workspace where
  options := {
    workspaceId := "notes"
    manifest := { pullSecretsEnabled := true, serviceAccount := some "dev" } }
  «namespace» := "team"
  files := fun _ => .error .missing

/-- A specification with a volume. -/
def RunSpec.notes : RunSpec where
  uid := "uid-1"
  image := "debian"
  entrypoint := "/bin/sleep"
  workspaceMount := some (.volume "notes" "/workspaces/notes")
  mounts := [.volume "cache" "/cache"]

/-- The volume claim of the workspace, with its record. -/
def Cluster.VolumeClaim.notes : VolumeClaim :=
  { metadata := { annotations := some (.single infoAnnotation
      (WorkspaceRecord.annotation ⟨"notes", .notes⟩)) } }

/-- A cluster with that claim and with a pod of the workspace that has finished. -/
def Simulation.Store.finished : Store where
  claims := (∅ : Dict VolumeClaim).insert Workspace.notes.resource .notes
  pods := (∅ : Dict StoredPod).insert Workspace.notes.resource
    ⟨withStates { spec := some { containers := [{ name := Manifest.devContainerName }] } } true false
      (ended 0 "Completed" none), [.asIs]⟩

/-- A world with credentials for every registry. -/
def Simulation.Surroundings.trusted : Surroundings where
  credentials := (∅ : Dict (Except String Registry.Credentials)).insert "*"
    (.ok { username := "dev", secret := "hush" })

end PodWorkspace
