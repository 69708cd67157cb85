import PodWorkspace.Proofs.PullSecret.Sync
import PodWorkspace.Proofs.Readiness.Wait
import PodWorkspace.Proofs.Workspace.Plan

/-! The runs that bring a workspace up. A launch finds its plan, sees to what the pod depends on, and
handles the pod; each of these parts has its inversion lemma, and a launch is cut into them once and
for all. -/

namespace PodWorkspace

open Cluster Program

namespace Workspace

variable {w : Workspace} {steps : List (Step interface)}

/-- Where a pod is placed, for the pull secret that it can use and the detection pods that there
are. -/
def placement (w : Workspace) (pullSecret : Option String) (detection : List String) :
    Manifest.Placement where
  serviceAccount := w.options.manifest.serviceAccount
  pullSecret := pullSecret
  affinityWorkspace :=
    if detection.isEmpty || w.options.manifest.nodeSelector.isSome then none else some w.resource

theorem runs_affinityWorkspace {detection : List String} {ending : Result (Option String)} :
    Runs (w.affinityWorkspace detection) steps ending ↔
      steps = [] ∧ ending = some (.ok (w.placement none detection).affinityWorkspace) := by
  unfold affinityWorkspace placement
  cases detection <;> cases w.options.manifest.nodeSelector <;> simp

/-- The pull secret is not wanted, or it is seen to and named when the pod can use it. -/
theorem runs_ensurePullSecret_ok {spec : RunSpec} {pullSecret : Option String}
    (h : Runs (w.ensurePullSecret spec) steps (some (.ok pullSecret))) :
    (w.options.manifest.pullSecretsEnabled = false ∧ steps = [] ∧ pullSecret = none) ∨
      w.options.manifest.pullSecretsEnabled = true ∧ ∃ outcome,
        PullSecret.Syncs w.name.pullSecret w.namespace (w.setting.image spec) steps outcome ∧
        pullSecret = if outcome.isAttachable then some w.name.pullSecret else none := by
  unfold ensurePullSecret at h
  split at h
  · rename_i hEnabled
    obtain ⟨syncing, outcome, rest, rfl, hSync, hResult⟩ := runs_andThen_ok.1 h
    obtain ⟨ending, hEnding, hEnsure⟩ := runs_cancellable.1 hSync
    obtain ⟨rfl, hSecret⟩ := runs_done.1 hResult
    rcases ending with _ | (f | ended) <;> cases hEnding
    exact .inr ⟨hEnabled, outcome, by simpa using PullSecret.syncs_of_runs hEnsure,
      by simpa using hSecret⟩
  · rename_i hDisabled
    obtain ⟨rfl, hSecret⟩ := runs_done.1 h
    exact .inl ⟨by simpa using hDisabled, rfl, by simpa using hSecret⟩

theorem runs_preparePod_ok {spec : RunSpec} {at_ : Manifest.Placement} {detection : List String}
    (h : Runs (w.preparePod spec) steps (some (.ok (at_, detection)))) :
    ∃ accounts syncing listing pullSecret, steps = accounts ++ (syncing ++ listing) ∧
      Runs w.ensureServiceAccount accounts (some (.ok ())) ∧
      Runs (w.ensurePullSecret spec) syncing (some (.ok pullSecret)) ∧
      Runs w.detectionPods listing (some (.ok detection)) ∧
      at_ = w.placement pullSecret detection := by
  simp only [preparePod, bind_eq_andThen, pure_eq_done] at h
  obtain ⟨accounts, _, _, rfl, hAccounts, hAfterAccounts⟩ := runs_andThen_ok.1 h
  obtain ⟨syncing, pullSecret, _, rfl, hSync, hAfterSync⟩ := runs_andThen_ok.1 hAfterAccounts
  obtain ⟨listing, _, rest, rfl, hList, hPlace⟩ := runs_andThen_ok.1 hAfterSync
  rw [runs_silent_andThen fun _ _ => runs_affinityWorkspace, resume_ok] at hPlace
  obtain ⟨rfl, hPlaced⟩ := runs_done.1 hPlace
  simp only [Option.some.injEq, Except.ok.injEq, Prod.mk.injEq] at hPlaced
  obtain ⟨rfl, rfl⟩ := hPlaced
  exact ⟨accounts, syncing, listing, pullSecret, by simp, hAccounts, hSync, hList, rfl⟩

end Workspace

namespace Launch

variable {w : Workspace} {l : Launch} {steps : List (Step interface)}

/-- The program of a launch. -/
def program (w : Workspace) : Launch → Action Unit
  | run given => w.run given
  | start => w.start

/-- The part of a launch that leads up to its pod: the pod, and the detection pods that there are. -/
def build (w : Workspace) (l : Launch) : Action (Pod × List String) := do
  let plan ← l.plan w
  let (placement, detection) ← w.preparePod plan.spec
  let pod ← .ofLogged (w.podOf plan placement)
  return (pod, detection)

theorem program_eq_plan (l : Launch) : l.program w = andThen w.applyPod (l.plan w) := by
  cases l <;> rfl

theorem program_eq_build (l : Launch) :
    l.program w = andThen (fun built => w.replacePod built.1 built.2) (l.build w) := by
  simp only [program_eq_plan, build, bind_eq_andThen, pure_eq_done, andThen_assoc, done_andThen]
  rfl

theorem inquiresIn_plan (l : Launch) : Workspace.InquiresIn .opening (l.plan w) := by
  cases l with
  | run given => exact Workspace.inquiresIn_runPlan given
  | start => exact Workspace.inquiresIn_startPlan

theorem staysIn_plan (l : Launch) : Workspace.StaysIn .opening (l.plan w) :=
  l.inquiresIn_plan.asksOnly

theorem inquires_build (l : Launch) : Inquires
    (fun r : Request => r.stage = some .opening ∨ r.stage = some .preparing) (l.build w) :=
  (l.inquiresIn_plan.mono fun _ => .inl).andThen fun _ =>
    ((Workspace.inquiresIn_preparePod _).mono fun _ => .inr).andThen fun _ =>
      (inquires_ofLogged _).andThen fun _ => inquires_done _

/-- A launch that has its pod: the steps up to that, and what came of them. -/
structure Builds (l : Launch) (w : Workspace) (opening preparing : List (Step interface))
    (plan : Workspace.Plan) (placement : Manifest.Placement) (detection : List String)
    (pod : Pod) : Prop where
  planned : Runs (l.plan w) opening (some (.ok plan))
  prepared : Runs (w.preparePod plan.spec) preparing (some (.ok (placement, detection)))
  built : (w.podOf plan placement).outcome = .ok pod

theorem runs_build_ok {pod : Pod} {detection : List String}
    (h : Runs (l.build w) steps (some (.ok (pod, detection)))) :
    ∃ opening preparing plan placement, steps = opening ++ preparing ∧
      l.Builds w opening preparing plan placement detection pod := by
  simp only [build, bind_eq_andThen, pure_eq_done] at h
  obtain ⟨opening, plan, _, rfl, hPlan, hRest⟩ := runs_andThen_ok.1 h
  obtain ⟨preparing, ⟨placement, found⟩, _, rfl, hPrepare, hBuild⟩ := runs_andThen_ok.1 hRest
  rw [runs_ofLogged_andThen] at hBuild
  rcases hPod : (w.podOf plan placement).outcome with f | built
  · simp [hPod] at hBuild
  · rw [hPod, resume_ok] at hBuild
    obtain ⟨rfl, hBuilt⟩ := runs_done.1 hBuild
    simp only [Option.some.injEq, Except.ok.injEq, Prod.mk.injEq] at hBuilt
    obtain ⟨rfl, rfl⟩ := hBuilt
    exact ⟨opening, preparing, plan, placement, by simp, hPlan, hPrepare, hPod⟩

theorem Builds.isPreliminary {opening preparing : List (Step interface)} {plan : Workspace.Plan}
    {placement : Manifest.Placement} {detection : List String} {pod : Pod}
    (h : l.Builds w opening preparing plan placement detection pod) :
    Workspace.IsPreliminary (opening ++ preparing) := by
  intro r a hMem
  rcases List.mem_append.1 hMem with hMem | hMem
  · simp [l.staysIn_plan h.planned r a hMem]
  · simp [Workspace.staysIn_preparePod _ h.prepared r a hMem]

/-- A launch fails before it handles a pod, or it is cut into its stages. -/
theorem runs_program {ending : Result Unit} (h : Runs (l.program w) steps ending) :
    (Workspace.IsPreliminary steps ∧ ending ≠ some (.ok ())) ∨
      ∃ opening preparing handling plan placement detection pod,
        steps = opening ++ preparing ++ handling ∧
        l.Builds w opening preparing plan placement detection pod ∧
        Runs (w.replacePod pod detection) handling ending := by
  rw [program_eq_build] at h
  obtain ⟨before, r, rest, rfl, hBuild, hReplace⟩ := runs_andThen.1 h
  have hEarly : Workspace.IsPreliminary before := by
    intro r a hMem
    rcases l.inquires_build.asksOnly hBuild r a hMem with hStage | hStage <;> simp [hStage]
  rcases r with _ | (f | ⟨pod, detection⟩)
  · obtain ⟨rfl, rfl⟩ := runs_cutOff.1 hReplace
    exact .inl ⟨by simpa using hEarly, by simp⟩
  · obtain ⟨rfl, rfl⟩ := runs_fail.1 hReplace
    exact .inl ⟨by simpa using hEarly, by simp⟩
  · obtain ⟨opening, preparing, plan, placement, rfl, hBuilds⟩ := runs_build_ok hBuild
    exact .inr ⟨opening, preparing, rest, plan, placement, detection, pod, rfl, hBuilds, hReplace⟩

theorem runs_program_ok (h : Runs (l.program w) steps (some (.ok ()))) :
    ∃ opening preparing handling plan placement detection pod,
      steps = opening ++ preparing ++ handling ∧
      l.Builds w opening preparing plan placement detection pod ∧
      Runs (w.replacePod pod detection) handling (some (.ok ())) :=
  (runs_program h).resolve_left fun hFailed => hFailed.2 rfl

end Launch

end PodWorkspace
