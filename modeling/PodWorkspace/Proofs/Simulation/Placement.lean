import PodWorkspace.Proofs.Simulation.Serves
import PodWorkspace.Proofs.Workspace.Launch

/-! Where a launch places its pod in a simulated cluster. That depends on the options, on the
credentials for the registry of its image and on whether there are detection pods, and on nothing
else that is stored. -/

namespace PodWorkspace

open Cluster Program Simulation

namespace Simulation.Store

variable {s s' : Store} {selector : String}

theorem podsMatching_congr (h : s'.pods = s.pods) :
    s'.podsMatching selector = s.podsMatching selector := by
  rw [podsMatching, h, podsMatching]

/-- Among the pods that a selector does not find it finds none. -/
theorem podsMatching_unselected (s : Store) (pods : Dict StoredPod) (selector : String) :
    ({ s with pods := pods.filter fun _ stored => !selects selector stored.pod } :
      Store).podsMatching selector = [] := by
  have hNone : (pods.entries.filter fun e => !selects selector e.2.pod).filter
      (fun e => selects selector e.2.pod) = [] := by
    simp
  exact congrArg (List.map (·.1)) hNone

end Simulation.Store

namespace Workspace

variable {w : Workspace} {steps : List (Step interface)} {around : Surroundings} {s s' : Store}
  {spec : RunSpec}

/-- The pull secret that the pod of a workspace can use when the world has some credentials. -/
def usableSecret (w : Workspace) (around : Surroundings) (spec : RunSpec) : Option String :=
  match w.options.manifest.pullSecretsEnabled, Registry.imageRegistry (w.setting.image spec) with
  | true, .ok registry =>
    (PullSecret.usable (Store.lookUp around registry)).map fun _ => w.name.pullSecret
  | _, _ => none

/-- The pull secret depends on the credentials alone. -/
theorem usableSecret_congr {other : Surroundings} (h : other.credentials = around.credentials) :
    w.usableSecret other spec = w.usableSecret around spec := by
  simp only [usableSecret, Store.lookUp, h]

theorem usableSecret_of_runs {pullSecret : Option String}
    (h : Runs (w.ensurePullSecret spec) steps (some (.ok pullSecret)))
    (hServes : Serves around s steps s') : pullSecret = w.usableSecret around spec := by
  unfold usableSecret
  obtain ⟨hDisabled, -, rfl⟩ | ⟨hEnabled, outcome, hSyncs, rfl⟩ := runs_ensurePullSecret_ok h
  · simp [hDisabled]
  · obtain ⟨registry, answer, more, hRegistry, rfl, hAttachable⟩ := hSyncs.isAttachable
    obtain rfl : answer = Store.lookUp around registry := hServes.eq_answer
    cases hUsable : PullSecret.usable (Store.lookUp around registry) <;>
      simp [hUsable, hRegistry, hEnabled, hAttachable]

theorem runs_detectionPods_ok {detection : List String}
    (h : Runs w.detectionPods steps (some (.ok detection))) (hServes : Serves around s steps s') :
    detection = s.podsMatching w.name.detectionSelector := by
  obtain ⟨asking, outcome, rest, rfl, hAttempt, hRest⟩ := runs_andThen_ok.1 h
  obtain ⟨asked, hOutcome, hRequest⟩ := runs_attempt.1 hAttempt
  obtain ⟨answer, rfl, rfl⟩ := runs_request.1 hRequest
  obtain rfl := hServes.answer_eq
  cases hOutcome
  simpa using (runs_done.1 hRest).2

/-- Where a pod is placed is up to the credentials, and to the detection pods that are found. -/
theorem runs_preparePod_served {at_ : Manifest.Placement} {detection : List String}
    (h : Runs (w.preparePod spec) steps (some (.ok (at_, detection))))
    (hServes : Serves around s steps s') :
    detection = s.podsMatching w.name.detectionSelector ∧
      at_ = w.placement (w.usableSecret around spec) detection := by
  obtain ⟨accounts, syncing, listing, pullSecret, rfl, hAccounts, hSync, hList, rfl⟩ :=
    runs_preparePod_ok h
  obtain ⟨afterAccounts, hServesAccounts, hServesRest⟩ := hServes.split
  obtain ⟨afterSync, hServesSync, hServesList⟩ := hServesRest.split
  -- The list is asked for last, but what comes before it leaves the pods alone.
  have hPods : afterSync.pods = s.pods := by
    have hSecret := (inquires_ensurePullSecret spec).asksOnly hSync
    have hAccess := inquires_ensureServiceAccount.asksOnly hAccounts
    rw [hServesSync.pods_eq fun r a hMem =>
        .inr (stage_of_isPreparation (.inr (.inl (hSecret r a hMem)))),
      hServesAccounts.pods_eq fun r a hMem =>
        .inr (stage_of_isPreparation (.inl (hAccess r a hMem)))]
  obtain rfl := usableSecret_of_runs hSync hServesSync
  rw [← Store.podsMatching_congr hPods]
  exact ⟨runs_detectionPods_ok hList hServesList, rfl⟩

/-- Where a pod is placed when there are no detection pods. -/
theorem runs_preparePod_placement {at_ : Manifest.Placement} {detection : List String}
    (h : Runs (w.preparePod spec) steps (some (.ok (at_, detection))))
    (hServes : Serves around s steps s') (hNone : s.podsMatching w.name.detectionSelector = []) :
    at_ = w.placement (w.usableSecret around spec) [] := by
  obtain ⟨rfl, rfl⟩ := runs_preparePod_served h hServes
  rw [hNone]

end Workspace

end PodWorkspace
