import PodWorkspace.Proofs.Readiness.Recycling
import PodWorkspace.Proofs.Simulation.Follow
import PodWorkspace.Proofs.Workspace.Handling

/-! What success means after a pod was recycled. A wait that has deleted the pod itself takes a look
that finds none for a pod that someone else took away, and ends well; so a launch may succeed and
leave no pod behind. It has seen a pod up since in all other cases. -/

namespace PodWorkspace

open Cluster Program

namespace Workspace

variable {w : Workspace} {steps before after : List (Step interface)} {pod : Pod}
  {detection : List String} {a : Result Unit}

/-- After the deletion that is looked at, steps show the pod up unless they show that there is
none. -/
def ReadyUnlessAbsent (w : Workspace) (after : List (Step interface)) : Prop :=
  Readiness.ShowsReady w.resource .restart after ↔ ¬Readiness.ShowsAbsent w.resource after

theorem readyUnlessAbsent_of_settlePod (hPolicy : w.options.completedPodPolicy = .restart)
    (h : Runs (w.settlePod detection) steps (some (.ok ())))
    (hSteps : steps = before ++ .call (.deletePod w.resource) a :: after) :
    w.ReadyUnlessAbsent after := by
  obtain ⟨waiting, cleaning, result, rfl, hWait, hCleaning⟩ := runs_settlePod_ok h
  obtain ⟨inner, hWaiting, rfl⟩ := split_of_not_mem_right hSteps fun hMem => by
    cases hCleaning _ _ hMem
  have hUnseen (answer : Result (Option Pod)) : .call (.getPod w.resource) answer ∉ cleaning :=
    fun hMem => by cases hCleaning _ _ hMem
  rw [waitFor, hPolicy] at hWait
  rw [ReadyUnlessAbsent, Readiness.showsReady_append hUnseen, Readiness.showsAbsent_append hUnseen]
  exact Readiness.showsReady_of_recycled hWait hWaiting

theorem readyUnlessAbsent_of_createPod (hPolicy : w.options.completedPodPolicy = .restart)
    (h : Runs (w.createPod pod detection) steps (some (.ok ())))
    (hSteps : steps = before ++ .call (.deletePod w.resource) a :: after) :
    w.ReadyUnlessAbsent after := by
  obtain ⟨rest, rfl, hSettle⟩ := runs_createPod_ok h
  obtain ⟨inner, -, hRest⟩ := split_of_ne hSteps nofun
  exact readyUnlessAbsent_of_settlePod hPolicy hSettle hRest

/-- Only the wait for a pod that was created deletes one without waiting for that. -/
theorem readyUnlessAbsent_of_replaces (hPolicy : w.options.completedPodPolicy = .restart)
    (h : w.Replaces pod detection steps (some (.ok ())))
    (hSteps : steps = before ++ .call (.deletePod w.resource) a :: after) :
    w.ReadyUnlessAbsent after := by
  cases h with
  | unseen hAnswer hEnding => exact absurd rfl hEnding
  | undeleted hCarries hAnswer hEnding => exact absurd rfl hEnding
  | current hCarries =>
    have hMem :
        .call (.deletePod w.resource) a ∈ before ++ .call (.deletePod w.resource) a :: after := by
      simp
    rw [← hSteps] at hMem
    cases List.mem_singleton.1 hMem
  | absent hCreate =>
    obtain ⟨inner, -, hRest⟩ := split_of_ne hSteps nofun
    exact readyUnlessAbsent_of_createPod hPolicy hCreate hRest
  | replaced hCarries hCreate =>
    obtain ⟨_, -, hDeleted⟩ := split_of_ne hSteps nofun
    obtain ⟨inner, -, hRest⟩ := split_of_ne hDeleted nofun
    exact readyUnlessAbsent_of_createPod hPolicy hCreate hRest

end Workspace

namespace Launch

theorem readyUnlessAbsent_of_runs {w : Workspace} {l : Launch}
    {steps before after : List (Step interface)} {a : Result Unit}
    (hPolicy : w.options.completedPodPolicy = .restart)
    (h : Runs (l.program w) steps (some (.ok ())))
    (hSteps : steps = before ++ .call (.deletePod w.resource) a :: after) :
    w.ReadyUnlessAbsent after := by
  obtain ⟨-, hFailed⟩ | ⟨opening, preparing, handling, plan, placement, detection, pod, rfl, hBuilds,
    hReplace⟩ := runs_program h
  · exact absurd rfl hFailed
  obtain ⟨inner, -, hHandling⟩ := split_of_not_mem_left hSteps fun hMem =>
    hBuilds.isPreliminary _ _ hMem rfl
  exact Workspace.readyUnlessAbsent_of_replaces hPolicy (Workspace.replaces_of_runs hReplace)
    hHandling

/-- The steps of a wait for a pod that has a value, or of a launch that succeeds, where finished pods
are deleted. -/
inductive EndsWell : String → List (Step interface) → Prop
  | wait {name : String} {timeout : Duration} {result : Readiness.WaitEnd}
      {steps : List (Step interface)}
      (hRun : Runs (Readiness.wait name timeout .restart) steps (some (.ok result))) :
      EndsWell name steps
  | launch {w : Workspace} {l : Launch} {steps : List (Step interface)}
      (hPolicy : w.options.completedPodPolicy = .restart)
      (hRun : Runs (l.program w) steps (some (.ok ()))) : EndsWell w.resource steps

/-- A wait or a launch that has deleted the pod itself and succeeds: it has seen the pod up since,
except where a look since has found that there is none. -/
theorem ready_iff_of_recycled {name : String} {steps before after : List (Step interface)}
    {a : Result Unit} (h : EndsWell name steps)
    (hSteps : steps = before ++ .call (.deletePod name) a :: after) :
    Readiness.ShowsReady name .restart after ↔ ¬Readiness.ShowsAbsent name after := by
  cases h with
  | wait hRun => exact Readiness.showsReady_of_recycled hRun hSteps
  | launch hPolicy hRun => exact readyUnlessAbsent_of_runs hPolicy hRun hSteps

/-- A world in which pods finish at once. -/
def fleeting : Simulation.Surroundings :=
  { Simulation.Surroundings.trusted with phases := [.completed] }

/-- A cluster of that world, except that another pod comes up in the place of one that is deleted. -/
def reviving (s : Simulation.Store) : (r : Request) → Result r.Answer × Simulation.Store
  | .deletePod name => (some (.ok ()), { s with pods := s.pods.insert name ⟨{}, [.up true]⟩ })
  | r => (some (s.answer fleeting r).1, (s.answer fleeting r).2)

/-- A wait for a pod that has finished. -/
def waitForFinished : Action Readiness.WaitEnd :=
  Readiness.wait Workspace.notes.resource (.ofSeconds 30) .restart

/-- A launch where another pod comes up in the place of the one that is deleted. -/
def revived : Followed interface Simulation.Store Unit :=
  Program.follow reviving {} ((run (some .notes)).program .notes)

/-- A wait there. -/
def revivedWait : Followed interface Simulation.Store Readiness.WaitEnd :=
  Program.follow reviving .finished waitForFinished

/-- A single look that shows a pod does not show that there is none. -/
theorem not_showsAbsent_of_look {name : String} {steps : List (Step interface)} {pod : Pod}
    {t due t' : Duration} (h : steps = [.clock t, .sleep due true, .clock t',
      .call (.getPod name) (some (.ok (some pod)))]) : ¬Readiness.ShowsAbsent name steps := by
  have hOther : (.ok none : Except Failure (Option Pod)) ≠ .ok (some pod) := by simp
  simp only [h, Readiness.ShowsAbsent, List.mem_cons, List.not_mem_nil, reduceCtorEq, false_or,
    or_false, Step.call.injEq, heq_eq_eq, true_and, Option.some.injEq]
  exact hOther

/-- Where the pod comes back, it is seen up before a wait and a launch succeed. -/
theorem ready_iff_of_recycled_of_revived :
    (∃ before a after result, Runs waitForFinished revivedWait.steps (some (.ok result)) ∧
      revivedWait.steps = before ++ .call (.deletePod Workspace.notes.resource) a :: after ∧
      Readiness.ShowsReady Workspace.notes.resource .restart after) ∧
    ∃ before a after, Runs ((run (some .notes)).program .notes) revived.steps (some (.ok ())) ∧
      revived.steps = before ++ .call (.deletePod Workspace.notes.resource) a :: after ∧
      Readiness.ShowsReady Workspace.notes.resource .restart after := by
  constructor
  · obtain ⟨pod, hEnding⟩ : ∃ pod, revivedWait.ending = some (.ok (.ready pod)) := ⟨_, rfl⟩
    have hRuns : Runs waitForFinished revivedWait.steps (some (.ok (.ready pod))) :=
      hEnding ▸ Program.runs_follow _ _ _
    have hSteps : revivedWait.steps = revivedWait.steps.take 4 ++
        .call (.deletePod Workspace.notes.resource) (some (.ok ())) :: revivedWait.steps.drop 5 := rfl
    have hSeen : ¬Readiness.ShowsAbsent Workspace.notes.resource (revivedWait.steps.drop 5) :=
      not_showsAbsent_of_look rfl
    exact ⟨_, _, _, _, hRuns, hSteps, (ready_iff_of_recycled (.wait hRuns) hSteps).2 hSeen⟩
  · have hEnding := Followed.ending_of_succeeds (show revived.succeeds = true by decide +kernel)
    have hRuns : Runs ((run (some .notes)).program .notes) revived.steps (some (.ok ())) :=
      hEnding ▸ Program.runs_follow _ _ _
    have hSteps : revived.steps = revived.steps.take 14 ++
        .call (.deletePod Workspace.notes.resource) (some (.ok ())) :: revived.steps.drop 15 := rfl
    have hSeen : ¬Readiness.ShowsAbsent Workspace.notes.resource (revived.steps.drop 15) :=
      not_showsAbsent_of_look rfl
    exact ⟨_, _, _, hRuns, hSteps, (ready_iff_of_recycled (.launch rfl hRuns) hSteps).2 hSeen⟩

/-- A wait in a cluster where nothing else brings a pod back. -/
def unrevivedWait : Followed interface Simulation.Store Readiness.WaitEnd :=
  Simulation.Store.finished.follow fleeting waitForFinished

/-- A launch there. -/
def unrevived : Followed interface Simulation.Store Unit :=
  Simulation.Store.follow {} fleeting ((run (some .notes)).program .notes)

/-- A wait and a launch may succeed although they have deleted the pod themselves and have not seen it
up since; then there is none. -/
theorem succeeds_without_pod :
    (∃ before a after result, Runs waitForFinished unrevivedWait.steps (some (.ok result)) ∧
      unrevivedWait.steps = before ++ .call (.deletePod Workspace.notes.resource) a :: after ∧
      ¬Readiness.ShowsReady Workspace.notes.resource .restart after) ∧
    ∃ before a after, Runs ((run (some .notes)).program .notes) unrevived.steps (some (.ok ())) ∧
      unrevived.steps = before ++ .call (.deletePod Workspace.notes.resource) a :: after ∧
      ¬Readiness.ShowsReady Workspace.notes.resource .restart after ∧
      unrevived.state.pods.isEmpty = true := by
  constructor
  · have hRuns : Runs waitForFinished unrevivedWait.steps (some (.ok .gone)) :=
      Simulation.Store.finished.runs_follow fleeting waitForFinished
    have hSteps : unrevivedWait.steps = unrevivedWait.steps.take 4 ++
        .call (.deletePod Workspace.notes.resource) (some (.ok ())) :: unrevivedWait.steps.drop 5 := rfl
    refine ⟨_, _, _, _, hRuns, hSteps, fun hReady => ?_⟩
    exact (Readiness.showsReady_of_recycled hRuns hSteps).1 hReady
      (List.mem_of_getElem? (i := 3) rfl)
  · have hEnding := Followed.ending_of_succeeds (show unrevived.succeeds = true by decide +kernel)
    have hRuns : Runs ((run (some .notes)).program .notes) unrevived.steps (some (.ok ())) :=
      hEnding ▸ Simulation.Store.runs_follow _ _ _
    have hSteps : unrevived.steps = unrevived.steps.take 14 ++
        .call (.deletePod Workspace.notes.resource) (some (.ok ())) :: unrevived.steps.drop 15 := rfl
    refine ⟨_, _, _, hRuns, hSteps, fun hReady => ?_, by decide +kernel⟩
    exact (readyUnlessAbsent_of_runs rfl hRuns hSteps).1 hReady (List.mem_of_getElem? (i := 3) rfl)

end Launch

end PodWorkspace
