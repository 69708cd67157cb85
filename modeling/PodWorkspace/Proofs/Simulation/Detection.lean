import PodWorkspace.Proofs.Simulation.Frame
import PodWorkspace.Proofs.Simulation.Placement
import PodWorkspace.Proofs.Simulation.Record
import PodWorkspace.Proofs.Simulation.Repetition

/-! What becomes of the detection pods of a workspace in a simulated cluster. A launch that creates a
pod removes them when it succeeds; one that finds its pod up to date leaves them where they are. -/

namespace PodWorkspace

open Cluster Program Simulation

namespace Simulation.Store

variable {s s' : Store} {name selector : String}

theorem mem_podsMatching : name ∈ s.podsMatching selector ↔
    ∃ pod, s.pod? name = some pod ∧ selects selector pod = true := by
  simp only [podsMatching, pod?, List.mem_map, List.mem_filter, Option.map_eq_some_iff,
    Dict.get?_eq_some_iff]
  constructor
  · rintro ⟨⟨_, stored⟩, ⟨hMem, hSelects⟩, rfl⟩
    exact ⟨stored.pod, ⟨stored, hMem, rfl⟩, hSelects⟩
  · rintro ⟨_, ⟨stored, hMem, rfl⟩, hSelects⟩
    exact ⟨(name, stored), ⟨hMem, hSelects⟩, rfl⟩

theorem observePod_congr (h : s'.pods = s.pods) :
    (s'.observePod name).1 = (s.observePod name).1 := by
  unfold observePod
  rw [h]
  split
  · rfl
  · dsimp only
    split <;> rfl

/-- A look that shows a pod keeps all pods. -/
theorem mem_podsMatching_observePod {pod : Pod} {other : String}
    (h : (s.observePod name).1 = .ok (some pod)) :
    other ∈ (s.observePod name).2.podsMatching selector ↔ other ∈ s.podsMatching selector := by
  have hShown : (s.observePod name).1 ≠ .ok none := by simp [h]
  have hKept : (s.observePod name).2.pod? other = s.pod? other := by
    by_cases hOther : other = name
    · rw [hOther, pod?_observePod hShown]
    · rw [pod?, (keeps_observePod s name).others other hOther, ← pod?]
  rw [mem_podsMatching, mem_podsMatching, hKept]

end Simulation.Store

namespace Workspace

variable {w : Workspace} {around : Surroundings} {s s' : Store} {steps : List (Step interface)}
  {pod : Pod} {detection : List String}

/-- A launch that has created its pod leaves no detection pods, if there were any. -/
theorem podsMatching_of_createPod (h : Runs (w.createPod pod detection) steps (some (.ok ())))
    (hServes : Serves around s steps s') (hDetection : detection ≠ []) :
    s'.podsMatching w.name.detectionSelector = [] := by
  obtain ⟨rest, rfl, hSettle⟩ := runs_createPod_ok h
  obtain ⟨waiting, result, rfl, -⟩ := runs_settlePod_cut hSettle
  obtain ⟨between, -, hRemove⟩ := hServes.rest.split
  cases detection with
  | nil => exact absurd rfl hDetection
  | cons found more =>
    rw [hRemove.rest.eq_of_nil]
    exact Store.podsMatching_unselected between _ _

/-- Whether a look at the pod of a workspace shows one that carries its options. -/
def ShowsCurrent (w : Workspace) (s : Store) : Prop :=
  ∃ pod, (s.observePod w.resource).1 = .ok (some pod) ∧ pod.Carries w.options.manifest

/-- Whether none of the detection pods that a workspace has in one cluster is there in another. -/
def LosesDetection (w : Workspace) (s s' : Store) : Prop :=
  ∀ name ∈ s.podsMatching w.name.detectionSelector, name ∉ s'.podsMatching w.name.detectionSelector

theorem not_showsCurrent_of_absent (h : (s.observePod w.resource).1 = .ok none) :
    ¬w.ShowsCurrent s := by
  rintro ⟨pod, hShown, -⟩
  rw [h] at hShown
  cases hShown

theorem showsCurrent_iff_of_shown (h : (s.observePod w.resource).1 = .ok (some pod)) :
    w.ShowsCurrent s ↔ pod.Carries w.options.manifest := by
  constructor
  · rintro ⟨other, hShown, hCurrent⟩
    rw [h] at hShown
    cases hShown
    exact hCurrent
  · exact fun hCurrent => ⟨pod, h, hCurrent⟩

/-- A launch that knows of the detection pods removes them once it has created its pod, whatever the
cluster is by then. -/
theorem losesDetection_of_createPod {t : Store}
    (h : Runs (w.createPod pod (s.podsMatching w.name.detectionSelector)) steps (some (.ok ())))
    (hServes : Serves around t steps s') : w.LosesDetection s s' := by
  intro name hMem
  rw [podsMatching_of_createPod h hServes (List.ne_nil_of_mem hMem)]
  exact List.not_mem_nil

/-- Where the detection pods stay, none is lost only if there are none. -/
theorem losesDetection_iff_of_kept
    (h : ∀ name, name ∈ s'.podsMatching w.name.detectionSelector ↔
      name ∈ s.podsMatching w.name.detectionSelector) :
    w.LosesDetection s s' ↔ s.podsMatching w.name.detectionSelector = [] := by
  simp only [LosesDetection, h, List.eq_nil_iff_forall_not_mem, imp_not_self]

/-- The handling of a pod removes the detection pods, unless there are none or the pod that is there
is up to date. -/
theorem losesDetection_iff_of_replaces
    (h : w.Replaces pod (s.podsMatching w.name.detectionSelector) steps (some (.ok ())))
    (hServes : Serves around s steps s') : w.LosesDetection s s' ↔
      s.podsMatching w.name.detectionSelector = [] ∨ ¬w.ShowsCurrent s := by
  cases h with
  | unseen _ hEnding | undeleted _ _ hEnding => exact absurd rfl hEnding
  | absent hCreate =>
    have hAbsent := not_showsCurrent_of_absent hServes.eq_answer.symm
    exact iff_of_true (losesDetection_of_createPod hCreate hServes.rest) (.inr hAbsent)
  | replaced hCarries hCreate =>
    have hOther := mt (showsCurrent_iff_of_shown hServes.eq_answer.symm).1 hCarries
    exact iff_of_true (losesDetection_of_createPod hCreate hServes.rest.rest) (.inr hOther)
  | @current existing hCarries =>
    have hFound : (s.observePod w.resource).1 = .ok (some existing) := hServes.eq_answer.symm
    have hCurrent := (showsCurrent_iff_of_shown hFound).2 hCarries
    have hLeft : s' = (s.observePod w.resource).2 := hServes.rest.eq_of_nil
    rw [or_iff_left (not_not_intro hCurrent), hLeft]
    exact losesDetection_iff_of_kept fun _ => Store.mem_podsMatching_observePod hFound

end Workspace

namespace Launch

variable {w : Workspace} {l : Launch} {around : Surroundings} {s s' : Store}
  {steps : List (Step interface)}

/-- Up to the handling of its pod a launch leaves all pods as they are, and so it knows of those detection
pods that there were when it began. -/
theorem Builds.handles {opening preparing handling : List (Step interface)} {plan : Workspace.Plan}
    {placement : Manifest.Placement} {detection : List String} {pod : Pod}
    (h : l.Builds w opening preparing plan placement detection pod)
    (hServes : Serves around s (opening ++ preparing ++ handling) s') :
    ∃ prepared, Serves around prepared handling s' ∧ prepared.pods = s.pods ∧
      detection = s.podsMatching w.name.detectionSelector := by
  rw [List.append_assoc] at hServes
  obtain ⟨opened, hOpening, hRest⟩ := hServes.split
  obtain ⟨prepared, hPreparing, hHandling⟩ := hRest.split
  have hOpened : opened.pods = s.pods :=
    hOpening.pods_eq fun r a hMem => .inl (l.staysIn_plan h.planned r a hMem)
  have hPrepared : prepared.pods = opened.pods := hPreparing.pods_eq fun r a hMem =>
    .inr (Workspace.staysIn_preparePod _ h.prepared r a hMem)
  have hDetection := (Workspace.runs_preparePod_served h.prepared hPreparing).1
  exact ⟨prepared, hHandling, hPrepared.trans hOpened,
    hDetection.trans (Store.podsMatching_congr hOpened)⟩

/-- A launch that succeeds in a cluster that answers every call removes the detection pods that there
were, unless there were none or the pod of the workspace was up to date: such a pod is left alone, and
they with it. -/
theorem losesDetection_iff (hRun : Runs (l.program w) steps (some (.ok ())))
    (hServes : Serves around s steps s') : w.LosesDetection s s' ↔
      s.podsMatching w.name.detectionSelector = [] ∨ ¬w.ShowsCurrent s := by
  obtain ⟨-, hEnding⟩ | ⟨opening, preparing, handling, plan, placement, detection, pod, rfl, hBuilds,
    hReplace⟩ := runs_program hRun
  · exact absurd rfl hEnding
  obtain ⟨prepared, hHandling, hPods, hDetection⟩ := hBuilds.handles hServes
  rw [← Store.podsMatching_congr hPods] at hDetection
  subst hDetection
  have hLoses := Workspace.losesDetection_iff_of_replaces (Workspace.replaces_of_runs hReplace)
    hHandling
  simpa only [Workspace.LosesDetection, Workspace.ShowsCurrent, Store.podsMatching_congr hPods,
    Store.observePod_congr hPods] using hLoses

/-- Where all that a launch sees to is there it succeeds, and keeps the detection pods. -/
theorem Completed.yields_keeping {plan : Workspace.Plan} (h : l.Completed w around plan s)
    (hThere : (s.pods.get? w.resource).isSome = true) :
    ∃ s', Yields around s (l.program w) () s' ∧ ∀ name,
      name ∈ s'.podsMatching w.name.detectionSelector ↔
        name ∈ s.podsMatching w.name.detectionSelector := by
  obtain ⟨stored, hStored⟩ := Option.isSome_iff_exists.1 hThere
  obtain ⟨shown, later, hLook, -, -⟩ := Store.observePod_of_lasting hStored (h.pod stored hStored).2
  exact ⟨_, h.yields_program hThere, fun name => Store.mem_podsMatching_observePod (by rw [hLook])⟩

/-! ### A workspace whose architecture is asked for -/

/-- A cluster in which only the architecture was asked for. -/
def detected : Store :=
  ({} : Store).perform .notes .trusted [.targetArchitecture "abc123"]

/-- The launch of a workspace after that. -/
def afterDetection : Followed interface Store Unit :=
  detected.follow .trusted ((run (some .notes)).program .notes)

/-- What an evaluation shows of that cluster and of that launch. -/
theorem shows_afterDetection : (detected.pods.get? Workspace.notes.resource).isNone = true ∧
    (detected.podsMatching Workspace.notes.name.detectionSelector).isEmpty = false ∧
    afterDetection.succeeds = true ∧
    (afterDetection.state.pods.get? Workspace.notes.resource).isSome = true := by
  decide +kernel

theorem runs_afterDetection :
    Runs ((run (some .notes)).program .notes) afterDetection.steps (some (.ok ())) := by
  have hEnding : afterDetection.ending = some (.ok ()) :=
    Followed.ending_of_succeeds shows_afterDetection.2.2.1
  exact hEnding ▸ Store.runs_follow _ _ _

theorem serves_afterDetection :
    Serves .trusted detected afterDetection.steps afterDetection.state :=
  Store.serves_follow _ _ _

theorem get?_detected : detected.pods.get? Workspace.notes.resource = none :=
  Option.isNone_iff_eq_none.1 shows_afterDetection.1

theorem podsMatching_detected :
    detected.podsMatching Workspace.notes.name.detectionSelector ≠ [] := by
  simpa using shows_afterDetection.2.1

/-- That launch removes the detection pod. -/
theorem losesDetection_iff_of_detected :
    Runs ((run (some .notes)).program .notes) afterDetection.steps (some (.ok ())) ∧
      Serves .trusted detected afterDetection.steps afterDetection.state ∧
      detected.podsMatching Workspace.notes.name.detectionSelector ≠ [] ∧
      Workspace.notes.LosesDetection detected afterDetection.state := by
  have hAbsent : ¬Workspace.notes.ShowsCurrent detected :=
    Workspace.not_showsCurrent_of_absent (by simp [Store.observePod, get?_detected])
  exact ⟨runs_afterDetection, serves_afterDetection, podsMatching_detected,
    (losesDetection_iff runs_afterDetection serves_afterDetection).2 (.inr hAbsent)⟩

/-- A detection pod of the workspace. -/
def helper : Pod :=
  Manifest.detectionPod Workspace.notes.setting Workspace.notes.name "devpod-notes-def456" none

/-- The cluster after that launch, in which the architecture was asked for again. -/
def redetected : Store :=
  { afterDetection.state with
    pods := afterDetection.state.pods.insert helper.name ⟨helper, [.asIs]⟩ }

theorem helper_mem_redetected :
    helper.name ∈ redetected.podsMatching Workspace.notes.name.detectionSelector :=
  Store.mem_podsMatching.2 ⟨helper, by simp [Store.pod?, redetected], by decide⟩

theorem get?_redetected : redetected.pods.get? Workspace.notes.resource =
    afterDetection.state.pods.get? Workspace.notes.resource := by
  have hOther : Workspace.notes.resource ≠ helper.name := by decide
  rw [redetected, Dict.get?_insert, if_neg hOther]

/-- The same launch succeeds again, and leaves the detection pod behind. -/
theorem keeps_detection_of_relaunched :
    ∃ steps s', Runs ((run (some .notes)).program .notes) steps (some (.ok ())) ∧
      Serves .trusted redetected steps s' ∧ ¬Workspace.notes.LosesDetection redetected s' := by
  obtain ⟨plan, hCompleted⟩ := completed_of_runs runs_afterDetection serves_afterDetection
    lasting_trusted fun stored hStored => by simp [get?_detected] at hStored
  have hThere : (redetected.pods.get? Workspace.notes.resource).isSome = true := by
    rw [get?_redetected]
    exact shows_afterDetection.2.2.2
  obtain ⟨s', hYields, hKept⟩ := (hCompleted.of_pods get?_redetected).yields_keeping hThere
  obtain ⟨steps, hRun, hServes⟩ := hYields.exists_run
  exact ⟨steps, s', hRun, hServes, fun hLost =>
    hLost _ helper_mem_redetected ((hKept _).2 helper_mem_redetected)⟩

end Launch

end PodWorkspace
