import PodWorkspace.Proofs.CommandLine.Command
import PodWorkspace.Proofs.Simulation.Cancellation
import PodWorkspace.Proofs.Simulation.Follow
import PodWorkspace.Proofs.Workspace.Cancellation

/-! Cancelling a task. Whenever that is done, the task begins nothing more and says at once that it was
cancelled. -/

namespace PodWorkspace.CommandLine.Task

open Cluster Program

variable {t : Task} {m : Machine} {w : Workspace} {moments : List (Moment interface)}
  {ending : Result Output}

/-- Whether an ending tells that a task was cancelled. The search for the architecture may tell instead
that the template of its pod cannot be loaded. -/
def TellsCancellation (t : Task) (w : Workspace) (ending : Result Output) : Prop :=
  ∃ f, ending = some (.error f) ∧
    (f.isCancelled = true ∨ t = .targetArchitecture ∧ w.detectionTemplate = .error f)

theorem tells_of_isCancelled (r : Result Output) (h : IsCancelled r) : t.TellsCancellation w r := by
  obtain ⟨f, rfl, hCancelled⟩ := isCancelled_iff.1 h
  exact ⟨f, rfl, .inl hCancelled⟩

theorem tells_of_stopsSearch (r : Result Output) (h : Stops w.StopsSearch r) :
    targetArchitecture.TellsCancellation w r := by
  refine h.ending (fun hCause => ?_) fun f hCause => ?_
  · obtain hCancelled | ⟨f, hNone, -⟩ := hCause
    · cases hCancelled
    · cases hNone
  · obtain hCancelled | ⟨g, hSame, hTemplate⟩ := hCause
    · exact ⟨f, rfl, .inl hCancelled⟩
    · cases hSame
      exact ⟨f, rfl, .inr ⟨rfl, hTemplate⟩⟩

theorem haltsWith_perform : HaltsWith (t.TellsCancellation w) (t.perform m w) := by
  cases t with
  | run spec => exact (Workspace.haltsWith_run.sequence _).mono tells_of_isCancelled
  | start => exact (Workspace.haltsWith_start.sequence _).mono tells_of_isCancelled
  | stop => exact (Workspace.haltsWith_stop.sequence _).mono tells_of_isCancelled
  | delete => exact (Workspace.haltsWith_delete.sequence _).mono tells_of_isCancelled
  | find => exact (Workspace.haltsWith_find.sequence _).mono tells_of_isCancelled
  | command user text => exact (Workspace.haltsWith_command.sequence _).mono tells_of_isCancelled
  | targetArchitecture =>
    exact (Workspace.haltsWith_targetArchitecture.sequence _).mono tells_of_stopsSearch
  | logs => exact (Workspace.haltsWith_request.sequence _).mono tells_of_isCancelled

theorem heeds_perform : Heeds (t.TellsCancellation w) (t.perform m w) := by
  cases t with
  | run spec =>
    exact (Workspace.heeds_run.sequence fun _ => heeds_done _).mono tells_of_isCancelled
  | start =>
    exact (Workspace.heeds_start.sequence fun _ => heeds_done _).mono tells_of_isCancelled
  | stop =>
    exact (Workspace.heeds_stop.sequence fun _ => heeds_done _).mono tells_of_isCancelled
  | delete =>
    exact (Workspace.heeds_delete.sequence fun _ => heeds_done _).mono tells_of_isCancelled
  | find =>
    refine (Workspace.heeds_find.sequence fun found => ?_).mono tells_of_isCancelled
    cases found <;> exact heeds_done _
  | command user text =>
    exact (Workspace.heeds_command.sequence fun _ => heeds_done _).mono tells_of_isCancelled
  | targetArchitecture =>
    exact (Workspace.heeds_targetArchitecture.sequence fun _ => heeds_done _).mono
      tells_of_stopsSearch
  | logs =>
    exact (Workspace.heeds_request.sequence fun _ => heeds_done _).mono tells_of_isCancelled

theorem not_tellsCancellation_none : ¬t.TellsCancellation w none := by
  rintro ⟨f, hNone, -⟩
  cases hNone

/-- A task that is cancelled, before it begins or while it waits, begins nothing more and tells that it
was cancelled. -/
theorem perform_cancelsWith (t : Task) (m : Machine) (w : Workspace) :
    (t.perform m w).CancelsWith (t.TellsCancellation w) :=
  heeds_perform.cancelsWith haltsWith_perform not_tellsCancellation_none

/-- A cluster whose pods do not come up, where a launch is cancelled between two looks at its pod. -/
def impatience : Simulation.World where
  around := { Simulation.Surroundings.trusted with phases := [.pending] }
  cancelAt := some (.ofMillis 2500)

theorem perform_cancelsWith_of_impatience : ∃ before ending,
    Executes false (Task.perform (.run (some .notes)) .connected .notes) (before ++ [.cancelled])
      ending ∧
      Waits (Task.perform (.run (some .notes)) .connected .notes) before ∧
      (Simulation.recorded before).getLast?.map (·.text) = some "get pod/devpod-notes" ∧
      (Task.run (some .notes)).TellsCancellation .notes ending := by
  obtain ⟨outcome, hEnds⟩ := Option.isSome_iff_exists.1
    (show (impatience.run (Task.perform (.run (some .notes)) .connected .notes)).1.outcome?.isSome =
      true by decide +kernel)
  obtain ⟨moments, hExec, hShows⟩ := Simulation.World.executes_of_run
    (w := impatience) not_tellsCancellation_none nofun (fun _ => heeds_perform) hEnds
  obtain ⟨before, rfl, hWaits, hTells⟩ :=
    (perform_cancelsWith (.run (some .notes)) .connected .notes).of_stopped hExec
      (hShows.cancelled_mem rfl (by decide +kernel))
  have hLast : (impatience.run (Task.perform (.run (some .notes)) .connected .notes)).2.calls.head?.map
      (·.text) = some "get pod/devpod-notes" := by decide +kernel
  have hCalls : (Simulation.recorded before).reverse =
      (impatience.run (Task.perform (.run (some .notes)) .connected .notes)).2.calls := by
    simpa [Simulation.recorded, impatience] using hShows.calls.symm
  rw [← hCalls, List.head?_reverse] at hLast
  exact ⟨before, _, hExec, hWaits, hLast, hTells⟩

end PodWorkspace.CommandLine.Task
