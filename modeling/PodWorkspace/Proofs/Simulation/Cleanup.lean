import PodWorkspace.Proofs.Manifest.Labels
import PodWorkspace.Proofs.Simulation.Detection
import PodWorkspace.Proofs.Workspace.Order
import PodWorkspace.Proofs.Workspace.Recycling

/-! What the removal of the detection pods does to the pod of the workspace. The user may give that pod
the label of a detection pod. It then counts as one wherever they are listed, and a launch that has
waited for it removes it with them. -/

namespace PodWorkspace

open Cluster Program Simulation

namespace Simulation.Store

variable {around : Surroundings} {s : Store} {name selector : String} {pod : Pod}

/-- A look that shows a pod leaves it where it is. -/
theorem exists_pod_observePod (h : (s.observePod name).1 = .ok (some pod)) :
    ∃ stored, (s.observePod name).2.pod? name = some stored := by
  obtain hNone | hLost | ⟨stored, later, answer, hStored, hShown⟩ := observePod_cases s name
  · simp [hNone] at h
  · simp [hLost] at h
  · exact ⟨stored.pod, by simp [hShown, pod?]⟩

end Simulation.Store

namespace Workspace

variable {w : Workspace} {around : Surroundings} {s t s' : Store} {steps : List (Step interface)}
  {pod : Pod} {detection : List String}

/-- Whether the user gives the pod of a workspace the label of its detection pods. -/
inductive MarksPod (w : Workspace) : Prop
  | intro {template : Option Pod} (hTemplate : w.template = .ok template)
      (hLabel : Manifest.givenLabel? w.setting template workspaceLabel = some w.resource)

theorem selects_podOf {plan : Plan} {placement : Manifest.Placement}
    (hTemplate : w.template = .ok plan.template) (h : (w.podOf plan placement).outcome = .ok pod) :
    Store.selects w.name.detectionSelector pod = true ↔ w.MarksPod := by
  rw [Manifest.selects_workspacePod h]
  constructor
  · exact .intro hTemplate
  · rintro ⟨hSame, hLabel⟩
    obtain rfl := Except.ok.inj (hTemplate.symm.trans hSame)
    exact hLabel

def SameLabels (pod other : Pod) : Prop := other.metadata.labels = pod.metadata.labels

theorem SameLabels.selects_eq {other : Pod} (h : SameLabels pod other) (selector : String) :
    Store.selects selector other = Store.selects selector pod := by
  simp only [Store.selects, ObjectMeta.label?]
  rw [h]

/-- Whether the pod that is stored for a workspace, if there is one, has the labels of `pod`. -/
def HasLabels (w : Workspace) (pod : Pod) (s : Store) : Prop :=
  ∀ stored, s.pod? w.resource = some stored → SameLabels pod stored

theorem hasLabels_createPod (hName : pod.name = w.resource)
    (hCreated : (s.answer around (.createPod pod)).1 = .ok ()) :
    w.HasLabels pod (s.answer around (.createPod pod)).2 := by
  intro stored hStored
  simp only [Store.answer, Store.createPod] at hCreated hStored
  split at hStored
  · rename_i hTaken
    simp [hTaken] at hCreated
  · simp only [Store.pod?, hName, Dict.get?_insert_self, Option.map_some, Option.some.injEq] at hStored
    rw [← hStored]
    rfl

/-- The pod keeps its labels while it is waited for. -/
theorem HasLabels.answer {r : Request} (h : w.HasLabels pod t)
    (hAbout : Readiness.IsAbout w.resource r) : w.HasLabels pod (t.answer around r).2 := by
  intro stored hStored
  obtain hSame | hLost := (@Store.keeps_answer around t _ _ (.inl hAbout)).pod
  · exact h stored (hSame ▸ hStored)
  · rw [hLost] at hStored
    cases hStored

/-- A pod that was seen up is there until the detection pods are removed, and after that unless it
counts as one of them. -/
theorem exists_pod_iff_of_settlePod (h : Runs (w.settlePod detection) steps (some (.ok ())))
    (hServes : Serves around t steps s') (hLabels : w.HasLabels pod t)
    (hReady : Readiness.ShowsReady w.resource w.options.completedPodPolicy steps) :
    (∃ stored, s'.pod? w.resource = some stored) ↔
      detection = [] ∨ Store.selects w.name.detectionSelector pod = false := by
  obtain ⟨waiting, result, rfl, hWait⟩ := runs_settlePod_cut h
  obtain ⟨looking, found, rfl, hDecides⟩ := Readiness.decides_of_wait hWait
  -- The look that showed the pod up has ended the wait.
  obtain ⟨seen, hSeen, hTick⟩ := hReady
  have hFound : found = some seen := by
    obtain hMem | hMem := List.mem_append.1 hSeen
    · obtain hMem | hMem := List.mem_append.1 hMem
      · have hNone := hDecides.earlier (some seen) hMem
        rw [hTick] at hNone
        cases hNone
      · cases List.mem_singleton.1 hMem
        rfl
    · cases detection with
      | nil => cases hMem
      | cons _ _ => cases List.mem_singleton.1 hMem
  obtain ⟨settled, hWaited, hRemoved⟩ := hServes.split
  obtain ⟨looked, -, hLast⟩ := hWaited.split
  have hThere : ∃ stored, settled.pod? w.resource = some stored := by
    rw [hLast.rest.eq_of_nil]
    exact Store.exists_pod_observePod (hLast.eq_answer.symm.trans (congrArg Except.ok hFound))
  obtain ⟨stored, hStored⟩ := hThere
  have hSettled : w.HasLabels pod settled := hWaited.preserves hLabels fun t r a hMem hKept =>
    hKept.answer (Readiness.asksOnly_wait hWait r a hMem)
  cases detection with
  | nil =>
    rw [hRemoved.eq_of_nil]
    exact iff_of_true ⟨stored, hStored⟩ (.inl rfl)
  | cons helper more =>
    rw [hRemoved.rest.eq_of_nil, Store.pod?_forceDeletePods, hStored,
      or_iff_right (List.cons_ne_nil _ _)]
    simp [Option.filter_some, (hSettled stored hStored).selects_eq]

theorem exists_pod_iff_of_createPod {rest : List (Step interface)} {p : Pod}
    (hName : pod.name = w.resource)
    (h : Runs (w.createPod pod detection) (.call (.createPod p) (some (.ok ())) :: rest)
      (some (.ok ())))
    (hServes : Serves around t (.call (.createPod p) (some (.ok ())) :: rest) s')
    (hReady : Readiness.ShowsReady w.resource w.options.completedPodPolicy rest) :
    (∃ stored, s'.pod? w.resource = some stored) ↔
      detection = [] ∨ Store.selects w.name.detectionSelector p = false := by
  obtain ⟨_, hSteps, hSettle⟩ := runs_createPod_ok h
  cases hSteps
  exact exists_pod_iff_of_settlePod hSettle hServes.rest
    (hasLabels_createPod hName hServes.eq_answer.symm) hReady

end Workspace

namespace Launch

variable {w : Workspace} {l : Launch} {around : Surroundings} {s s' : Store}
  {steps before after : List (Step interface)} {ending : Result Unit} {pod : Pod}

/-- A pod that a launch creates counts as a detection pod when the user gives it the label of one. -/
theorem selects_of_created {answer : Result Unit} (h : Runs (l.program w) steps ending)
    (hMem : .call (.createPod pod) answer ∈ steps) :
    Store.selects w.name.detectionSelector pod = true ↔ w.MarksPod := by
  obtain ⟨opening, preparing, handling, plan, placement, detection, built, rfl, hBuilds, -, rfl⟩ :=
    builds_of_created h hMem
  have hStamped : Store.selects w.name.detectionSelector (w.stamped built) =
      Store.selects w.name.detectionSelector built :=
    Workspace.SameLabels.selects_eq rfl _
  rw [hStamped]
  exact Workspace.selects_podOf (spec_and_template_of_plan hBuilds.planned).2 hBuilds.built

/-- A launch that has seen its pod up leaves it there, unless there were detection pods and it counts
as one of them. -/
theorem exists_pod_iff_of_runs (hRun : Runs (l.program w) steps (some (.ok ())))
    (hServes : Serves around s steps s')
    (hSteps : steps = before ++ .call (.createPod pod) (some (.ok ())) :: after)
    (hReady : Readiness.ShowsReady w.resource w.options.completedPodPolicy after) :
    (∃ stored, s'.pod? w.resource = some stored) ↔
      s.podsMatching w.name.detectionSelector = [] ∨ ¬w.MarksPod := by
  have hMem : .call (.createPod pod) (some (.ok ())) ∈ steps := by simp [hSteps]
  rw [← selects_of_created hRun hMem, Bool.not_eq_true]
  obtain ⟨opening, preparing, handling, plan, placement, detection, built, rfl, hBuilds, hReplace,
    rfl⟩ := builds_of_created hRun hMem
  obtain ⟨prepared, hHandling, -, rfl⟩ := hBuilds.handles hServes
  obtain ⟨inner, -, rfl⟩ := split_of_not_mem_left hSteps fun hMem =>
    hBuilds.isPreliminary _ _ hMem rfl
  have hCreate := (Workspace.replaces_of_runs hReplace).creates rfl
  obtain ⟨creating, -, hCreating⟩ := hHandling.split
  exact Workspace.exists_pod_iff_of_createPod (Workspace.name_of_podOf hBuilds.built) hCreate hCreating
    hReady

/-- Only the user can make the pod of a workspace count as one of its detection pods: by giving it their
label, in `LABELS` or in the template. Wherever such a pod is stored it is then listed as one, and a
launch that has created a pod and seen it up leaves it there exactly when it does not count as one, or
there were no detection pods to remove. -/
theorem removal_spares_pod_iff (w : Workspace) :
    (∀ spec template fresh placement pod,
      (Manifest.workspacePod w.setting w.name spec template fresh placement).outcome = .ok pod →
        (Store.selects w.name.detectionSelector pod = true ↔
          Manifest.givenLabel? w.setting template workspaceLabel = some w.resource)) ∧
    (∀ l steps ending pod answer, Runs (program w l) steps ending →
      .call (.createPod pod) answer ∈ steps → ∀ (s : Store) stored,
        s.pod? w.resource = some stored → Workspace.SameLabels pod stored →
          (w.resource ∈ s.podsMatching w.name.detectionSelector ↔ w.MarksPod)) ∧
    ∀ l around s steps s' before pod after, Runs (program w l) steps (some (.ok ())) →
      Serves around s steps s' →
      steps = before ++ .call (.createPod pod) (some (.ok ())) :: after →
      Readiness.ShowsReady w.resource w.options.completedPodPolicy after →
        ((∃ stored, s'.pod? w.resource = some stored) ↔
          s.podsMatching w.name.detectionSelector = [] ∨ ¬w.MarksPod) := by
  refine ⟨fun spec template fresh placement pod hBuilt => Manifest.selects_workspacePod hBuilt, ?_,
    fun l around s steps s' before pod after hRun hServes => exists_pod_iff_of_runs hRun hServes⟩
  intro l steps ending pod answer hRun hMem s stored hStored hLabels
  rw [← selects_of_created hRun hMem, ← hLabels.selects_eq, Store.mem_podsMatching, hStored]
  simp

/-! ### A pod with the label of a detection pod -/

def showsUp (w : Workspace) : Step interface → Bool
  | .call (.getPod name) (some (.ok (some pod))) =>
    name == w.resource && decide (Readiness.tick (some pod) w.options.completedPodPolicy = .ready)
  | _ => false

/-- Whether some steps create a pod and show the pod of a workspace up after that. -/
def showsCreated (w : Workspace) : List (Step interface) → Bool
  | [] => false
  | .call (.createPod _) (some (.ok _)) :: rest => rest.any (showsUp w)
  | _ :: rest => showsCreated w rest

theorem showsReady_of_any (h : steps.any (showsUp w) = true) :
    Readiness.ShowsReady w.resource w.options.completedPodPolicy steps := by
  obtain ⟨step, hMem, hUp⟩ := List.any_eq_true.1 h
  unfold showsUp at hUp
  split at hUp
  · simp only [Bool.and_eq_true, beq_iff_eq, decide_eq_true_eq] at hUp
    exact ⟨_, hUp.1 ▸ hMem, hUp.2⟩
  · cases hUp

theorem exists_of_showsCreated (h : showsCreated w steps = true) :
    ∃ before pod after, steps = before ++ .call (.createPod pod) (some (.ok ())) :: after ∧
      Readiness.ShowsReady w.resource w.options.completedPodPolicy after := by
  fun_induction showsCreated w steps with
  | case1 => cases h
  | case2 pod u rest => exact ⟨[], pod, rest, rfl, showsReady_of_any h⟩
  | case3 step rest _ ih =>
    obtain ⟨before, pod, after, hSteps, hReady⟩ := ih h
    exact ⟨step :: before, pod, after, by rw [hSteps]; rfl, hReady⟩

/-- A launch after the architecture was asked for: the removal of the detection pod leaves the pod that
it has created. -/
theorem removal_spares_pod_iff_of_detected :
    Runs ((run (some .notes)).program .notes) afterDetection.steps (some (.ok ())) ∧
      Serves .trusted detected afterDetection.steps afterDetection.state ∧
      detected.podsMatching Workspace.notes.name.detectionSelector ≠ [] ∧
      ∃ stored, afterDetection.state.pod? Workspace.notes.resource = some stored := by
  have hUnmarked : ¬Workspace.notes.MarksPod := by
    rintro ⟨hTemplate, hLabel⟩
    cases hTemplate
    cases hLabel
  have hCreated : showsCreated .notes afterDetection.steps = true := by decide +kernel
  obtain ⟨before, pod, after, hSteps, hReady⟩ := exists_of_showsCreated hCreated
  exact ⟨runs_afterDetection, serves_afterDetection, podsMatching_detected,
    ((removal_spares_pod_iff .notes).2.2 (run (some .notes)) .trusted detected
      afterDetection.steps afterDetection.state before pod after runs_afterDetection
      serves_afterDetection hSteps hReady).2 (.inr hUnmarked)⟩

/-- The same workspace, whose pods are given the label of its detection pods. -/
def marked : Workspace :=
  { Workspace.notes with options := { Workspace.notes.options with
      manifest := { Workspace.notes.options.manifest with
        labels := some "devpod.sh/workspace=devpod-notes" } } }

def afterMarked : Followed interface Store Unit :=
  detected.follow .trusted ((run (some .notes)).program marked)

/-- That launch creates its pod, sees it up and succeeds, and has removed it. -/
theorem removal_takes_marked_pod :
    ∃ before pod after, Runs ((run (some .notes)).program marked) afterMarked.steps (some (.ok ())) ∧
      Serves .trusted detected afterMarked.steps afterMarked.state ∧
      afterMarked.steps = before ++ .call (.createPod pod) (some (.ok ())) :: after ∧
      Readiness.ShowsReady marked.resource marked.options.completedPodPolicy after ∧
      Store.selects marked.name.detectionSelector pod = true ∧
      afterMarked.state.pod? marked.resource = none := by
  have hShows : (afterMarked.succeeds && showsCreated marked afterMarked.steps &&
      (afterMarked.state.pod? marked.resource).isNone) = true := by decide +kernel
  simp only [Bool.and_eq_true] at hShows
  obtain ⟨⟨hSucceeds, hCreated⟩, hGone⟩ := hShows
  have hEnding := Followed.ending_of_succeeds hSucceeds
  have hRun : Runs ((run (some .notes)).program marked) afterMarked.steps (some (.ok ())) :=
    hEnding ▸ Store.runs_follow _ _ _
  have hMarked : marked.MarksPod := .intro (show marked.template = .ok none from rfl) (by decide)
  obtain ⟨before, pod, after, hSteps, hReady⟩ := exists_of_showsCreated hCreated
  have hMem : .call (.createPod pod) (some (.ok ())) ∈ afterMarked.steps := by simp [hSteps]
  have hSelects := (selects_of_created hRun hMem).2 hMarked
  exact ⟨before, pod, after, hRun, Store.serves_follow _ _ _, hSteps, hReady, hSelects,
    Option.isNone_iff_eq_none.1 hGone⟩

end Launch

end PodWorkspace
