import PodWorkspace.Proofs.Readiness.Recycling
import PodWorkspace.Proofs.Simulation.Follow
import PodWorkspace.Proofs.Simulation.Frame
import PodWorkspace.Proofs.Workspace.Plan
import PodWorkspace.Workspace.Manage

/-! What finding out about a workspace does to it. The pod is waited for as it is after a launch, so a
pod that has finished is deleted under the policy that says so; nothing else is changed. -/

namespace PodWorkspace

open Cluster Program Simulation

namespace Workspace

variable {w : Workspace} {steps : List (Step interface)}

/-- Whatever comes of it, to look for a pod that runs is to wait for it. -/
theorem runs_runningPod {ending : Result (Option Pod)} (h : Runs w.runningPod steps ending) :
    ∃ ended, Runs (w.waitFor w.resource) steps ended := by
  obtain ⟨waiting, _, rest, rfl, hAttempt, hRest⟩ := runs_andThen.1 h
  obtain ⟨ended, rfl, hWait⟩ := runs_attempt.1 hAttempt
  refine ⟨ended, ?_⟩
  suffices rest = [] by simpa [this] using hWait
  rcases ended with _ | (f | pod | pod | _)
  · exact (runs_cutOff.1 hRest).1
  · simp only [Option.map_some, resume_ok] at hRest
    split at hRest
    · exact (runs_fail.1 hRest).1
    · exact (runs_done.1 (runs_log.1 (runs_log.1 hRest))).1
  all_goals exact (runs_done.1 hRest).1

/-- The volume claim is looked for first, and then the pod is waited for, if there is a claim. -/
theorem runs_find {ending : Result (Option Details)} (h : Runs w.find steps ending) :
    ∃ (answer : Result (Option VolumeClaim)) (rest : List (Step interface)),
      steps = .call (.getClaim w.resource) answer :: rest ∧
      (rest = [] ∨ ∃ ended, Runs (w.waitFor w.resource) rest ended) := by
  obtain ⟨finding, _, rest, rfl, hFind, hRest⟩ := runs_andThen.1 h
  cases finds_of_runs hFind with
  | unusable => exact ⟨_, rest, rfl, .inl (runs_fail.1 hRest).1⟩
  | absent => exact ⟨_, rest, rfl, .inl (runs_done.1 hRest).1⟩
  | found hRecord =>
    obtain ⟨waiting, r, after, rfl, hPod, hAfter⟩ := runs_andThen.1 hRest
    have hNone : after = [] := by
      rcases r with _ | (f | pod)
      · exact (runs_cutOff.1 hAfter).1
      · exact (runs_fail.1 hAfter).1
      · exact (runs_done.1 hAfter).1
    exact ⟨_, _, rfl, .inr (by simpa [hNone] using runs_runningPod hPod)⟩

theorem onlyRecycles_find {ending : Result (Option Details)} (h : Runs w.find steps ending) :
    Readiness.OnlyRecycles w.resource w.options.completedPodPolicy steps := by
  obtain ⟨answer, rest, rfl, rfl | ⟨ended, hWait⟩⟩ := runs_find h
  · exact .quiet rfl .nil
  · exact .quiet rfl (Readiness.onlyRecycles_wait hWait)

theorem asksAbout_find {ending : Result (Option Details)} (h : Runs w.find steps ending) (r : Request)
    (a : Result r.Answer) (hMem : .call r a ∈ steps) :
    Readiness.IsAbout w.resource r ∨ r.changesObjects = false ∧ r.looksAtPod = false := by
  obtain ⟨answer, rest, rfl, hRest⟩ := runs_find h
  obtain hHead | hMem := List.mem_cons.1 hMem
  · cases hHead
    exact .inr ⟨rfl, rfl⟩
  · obtain rfl | ⟨ended, hWait⟩ := hRest
    · cases hMem
    · exact .inl (Readiness.asksOnly_wait hWait r a hMem)

/-- To find out about a workspace changes nothing but its pod, which is deleted right after a look
that shows it finished and only under the policy that says so. In a cluster that answers every call
all other objects are kept, and so is the pod when it is neither deleted nor gone by itself. -/
theorem find_only_recycles {ending : Result (Option Details)} (h : Runs w.find steps ending) :
    (∀ before r a after, steps = before ++ .call r a :: after → Request.changesObjects r = true →
      r = .deletePod w.resource ∧ w.options.completedPodPolicy = .restart ∧
        ∃ lead pod container,
          before = lead ++ [.call (.getPod w.resource) (some (.ok (some pod)))] ∧
          Readiness.tick (some pod) .restart = .recycle container) ∧
      ∀ around s s', Serves around s steps s' → s.Keeps w.resource s' ∧
        ((∀ a, .call (.deletePod w.resource) a ∉ steps) →
          .call (.getPod w.resource) (some (.ok none)) ∉ steps →
          s'.pod? w.resource = s.pod? w.resource) := by
  refine ⟨fun before r a after hSteps hChanges => ?_, fun around s s' hServes => ?_⟩
  · obtain ⟨hDelete, lead, found, container, hLook, hTick⟩ :=
      (onlyRecycles_find h).follows_look hSteps hChanges
    obtain ⟨hPolicy, pod, rfl, -⟩ := Readiness.finished_of_recycle hTick
    exact ⟨hDelete, hPolicy, lead, pod, container, hLook, hPolicy ▸ hTick⟩
  · exact ⟨hServes.keeps (asksAbout_find h), hServes.pod?_eq (asksAbout_find h)⟩

/-- Where a claim can be read, the steps of finding out are those of the look at it and of the
wait. -/
theorem runs_find_of_found {claim : VolumeClaim} {record : WorkspaceRecord} {running : Option Pod}
    (hRecord : w.recordOf claim = .ok record)
    (h : Runs w.runningPod steps (some (.ok running))) :
    Runs w.find (.call (.getClaim w.resource) (some (.ok (some claim))) :: steps)
      (some (.ok (some (.ofObjects claim record.spec running)))) := by
  have hFind : Runs w.findClaim [.call (.getClaim w.resource) (some (.ok (some claim)))]
      (some (.ok (some (claim, record)))) := by
    refine runs_request_andThen_ok.2 ⟨some claim, [], rfl, runs_ofExcept_andThen.2 ?_⟩
    rw [hRecord]
    exact .done _
  exact runs_andThen_ok.2 ⟨_, _, steps, rfl, hFind,
    runs_andThen_ok.2 ⟨steps, running, [], by simp, h, .done _⟩⟩

/-- The wait for the pod of a workspace whose pod has finished. -/
def reaping : Followed interface Store (Option Pod) :=
  Store.finished.follow .trusted Workspace.notes.runningPod

/-- The steps of finding out about that workspace. -/
def reapingSteps : List (Step interface) :=
  .call (.getClaim Workspace.notes.resource) (some (.ok (some .notes))) :: reaping.steps

theorem runs_reapingSteps :
    Runs Workspace.notes.find reapingSteps (some (.ok (some (.ofObjects .notes .notes none)))) :=
  have hRecord : Workspace.notes.recordOf .notes = .ok ⟨"notes", .notes⟩ :=
    recordOf_of_annotation rfl
  runs_find_of_found hRecord (Store.finished.runs_follow .trusted _)

theorem serves_reapingSteps : Serves .trusted .finished reapingSteps reaping.state :=
  .call (r := .getClaim Workspace.notes.resource) (Store.finished.serves_follow .trusted _)

/-- A pod that has finished is deleted once, right after the look that showed so, and all else is
kept. -/
theorem find_only_recycles_of_reaping :
    Runs Workspace.notes.find reapingSteps (some (.ok (some (.ofObjects .notes .notes none)))) ∧
      Serves .trusted .finished reapingSteps reaping.state ∧
      timesAsked Request.changesObjects reapingSteps = 1 ∧
      (∃ lead pod container a after,
        reapingSteps = lead ++ .call (.getPod Workspace.notes.resource) (some (.ok (some pod))) ::
          .call (.deletePod Workspace.notes.resource) a :: after ∧
        Readiness.tick (some pod) .restart = .recycle container) ∧
      Store.finished.Keeps Workspace.notes.resource reaping.state := by
  have hOnce : timesAsked Request.changesObjects reapingSteps = 1 := by decide +kernel
  obtain ⟨hChanges, hKeeps⟩ := find_only_recycles runs_reapingSteps
  obtain ⟨before, r, a, after, hSteps, hKind⟩ :=
    exists_call_of_timesAsked (show 0 < timesAsked Request.changesObjects reapingSteps by omega)
  obtain ⟨rfl, -, lead, pod, container, rfl, hTick⟩ := hChanges before r a after hSteps hKind
  refine ⟨runs_reapingSteps, serves_reapingSteps, hOnce, ⟨lead, pod, container, a, after, ?_, hTick⟩,
    (hKeeps _ _ _ serves_reapingSteps).1⟩
  rw [hSteps, List.append_assoc]
  rfl

/-- To find out about a workspace may take its pod away. -/
theorem find_deletes_pod :
    ∃ (s s' : Store) (steps : List (Step interface)) (ending : Result (Option Details)),
      Runs Workspace.notes.find steps ending ∧ Serves .trusted s steps s' ∧
      timesAsked Request.deletesPods steps = 1 ∧
      (s.pod? Workspace.notes.resource).isSome = true ∧ s'.pod? Workspace.notes.resource = none :=
  ⟨.finished, reaping.state, reapingSteps, _, runs_reapingSteps, serves_reapingSteps,
    by decide +kernel, by decide +kernel, Option.isNone_iff_eq_none.1 (by decide +kernel)⟩

end Workspace

end PodWorkspace
