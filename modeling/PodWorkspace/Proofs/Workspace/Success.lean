import PodWorkspace.Proofs.Simulation.Follow
import PodWorkspace.Proofs.Workspace.Handling

/-! What the success of a launch says about its pod. The last look at the pod should find one that is
usable, and it does, unless it was the first look as well and found a pod that carries the options:
that is left alone whatever its state is. And where finished pods are kept, a container that comes after
one that has finished is not looked at. -/

namespace PodWorkspace

open Cluster Program

/-- The last look at the pod of a workspace. -/
structure LastLook (w : Workspace) (steps before after : List (Step interface))
    (found : Option Pod) : Prop extends Look w steps before after found where
  last : timesAsked Request.looksAtPod after = 0

/-- What a launch that succeeds has seen of its pod, after some steps before the last look. -/
inductive Settled (w : Workspace) (before : List (Step interface)) (found : Option Pod) : Prop
  /-- The last look was the only one, and the pod carries the options. -/
  | unchanged (hFirst : timesAsked Request.looksAtPod before = 0) (existing : Pod)
      (hFound : found = some existing) (hCarries : existing.Carries w.options.manifest)
  /-- The decision is that the pod is usable, or that there is none. -/
  | usable (hTick : (Readiness.tick found w.options.completedPodPolicy).isUsable = true)
      (hSound : ∀ pod, found = some pod → Readiness.IsSound pod w.options.completedPodPolicy)

/-- What the last look at the pod should find when a launch succeeds: a pod that is usable, or none. A pod
that is usable is not being deleted, and none of its containers is in a critical state. -/
structure IsUsable (w : Workspace) (found : Option Pod) : Prop where
  tick : (Readiness.tick found w.options.completedPodPolicy).isUsable = true
  present : ∀ pod, found = some pod → pod.metadata.deletionTimestamp = none
  inits : ∀ pod, found = some pod → ∀ status ∈ Readiness.initStatuses pod,
    (Readiness.classify status).isCritical = false
  containers : ∀ pod, found = some pod → ∀ status ∈ Readiness.containerStatuses pod,
    (Readiness.classify status).isCritical = false

/-- Whether a launch leaves a pod alone at its only look, although that is not usable: it carries the
options. -/
def LeavesUnusable (w : Workspace) (before : List (Step interface)) (found : Option Pod) : Prop :=
  timesAsked Request.looksAtPod before = 0 ∧ ∃ pod, found = some pod ∧
    pod.Carries w.options.manifest ∧
    (Readiness.tick found w.options.completedPodPolicy).isUsable = false

/-- Whether a container that is in a critical state is reported after one that has finished, and may stay
so. -/
def MasksFailure (w : Workspace) (found : Option Pod) : Prop :=
  w.options.completedPodPolicy = .exit ∧ ∃ pod, found = some pod ∧
    ∃ before status after, Readiness.containerStatuses pod = before ++ status :: after ∧
      (Readiness.classify status).isCritical = true ∧
      ∃ other ∈ before, Readiness.classify other = .terminatedSuccess

theorem IsUsable.not_leavesUnusable {w : Workspace} {before : List (Step interface)}
    {found : Option Pod} (h : IsUsable w found) : ¬LeavesUnusable w before found := by
  rintro ⟨-, pod, -, -, hTick⟩
  rw [h.tick] at hTick
  cases hTick

theorem IsUsable.not_masksFailure {w : Workspace} {found : Option Pod} (h : IsUsable w found) :
    ¬MasksFailure w found := by
  rintro ⟨-, pod, hFound, before, status, after, hStatuses, hCritical, -⟩
  have hCalm := h.containers pod hFound status (by simp [hStatuses])
  rw [hCritical] at hCalm
  cases hCalm

theorem Settled.isUsable_tick {w : Workspace} {before : List (Step interface)} {found : Option Pod}
    (h : Settled w before found) (hLeft : ¬LeavesUnusable w before found) :
    (Readiness.tick found w.options.completedPodPolicy).isUsable = true := by
  cases h with
  | usable hTick => exact hTick
  | unchanged hFirst existing hFound hCarries =>
    by_contra hTick
    exact hLeft ⟨hFirst, existing, hFound, hCarries, Bool.eq_false_iff.2 hTick⟩

/-- Where nothing is masked, a decision that the pod is usable is right about each of its containers. -/
theorem isUsable_of_tick {w : Workspace} {found : Option Pod}
    (hTick : (Readiness.tick found w.options.completedPodPolicy).isUsable = true)
    (hMasked : ¬MasksFailure w found) : IsUsable w found := by
  have hSound : ∀ pod, found = some pod → Readiness.IsSound pod w.options.completedPodPolicy :=
    fun pod hFound => Readiness.isSound_of_isUsable (hFound ▸ hTick)
  refine ⟨hTick, fun pod hFound => (hSound pod hFound).present,
    fun pod hFound => (hSound pod hFound).inits, fun pod hFound status hMem => ?_⟩
  obtain ⟨front, rest, hStatuses⟩ := List.append_of_mem hMem
  refine Bool.eq_false_iff.2 fun hCritical => ?_
  obtain ⟨hPolicy, hFinished⟩ := (hSound pod hFound).containers front status rest hStatuses hCritical
  exact hMasked ⟨hPolicy, pod, hFound, front, status, rest, hStatuses, hCritical, hFinished⟩

theorem Settled.isUsable_iff {w : Workspace} {before : List (Step interface)} {found : Option Pod}
    (h : Settled w before found) :
    IsUsable w found ↔ ¬LeavesUnusable w before found ∧ ¬MasksFailure w found := by
  constructor
  · intro hUsable
    exact ⟨hUsable.not_leavesUnusable, hUsable.not_masksFailure⟩
  · rintro ⟨hLeft, hMasked⟩
    exact isUsable_of_tick (h.isUsable_tick hLeft) hMasked

/-- What the last look at the pod of a workspace finds, if the last look at any pod is one. -/
def lastFound? (w : Workspace) : List (Step interface) → Option (Option Pod)
  | [] => none
  | step :: rest =>
    if timesAsked Request.looksAtPod rest = 0 then
      match step with
      | .call (.getPod name) (some (.ok found)) => if name = w.resource then some found else none
      | _ => none
    else lastFound? w rest

theorem exists_lastLook {w : Workspace} {steps : List (Step interface)} {P : Option Pod → Bool}
    (h : (lastFound? w steps).any P = true) :
    ∃ before after found, LastLook w steps before after found ∧ P found = true := by
  induction steps with
  | nil => cases h
  | cons step rest ih =>
    unfold lastFound? at h
    split at h
    · rename_i hLast
      split at h
      · split at h
        · rename_i found hName
          exact ⟨[], rest, found, ⟨⟨by rw [hName]; rfl⟩, hLast⟩, h⟩
        · cases h
      · cases h
    · obtain ⟨before, after, found, hLook, hFound⟩ := ih h
      exact ⟨step :: before, after, found, ⟨⟨by rw [hLook.steps_eq]; rfl⟩, hLook.last⟩, hFound⟩

theorem lastFound?_of_lastLook {w : Workspace} {steps before after : List (Step interface)}
    {found : Option Pod} (h : LastLook w steps before after found) :
    lastFound? w steps = some found := by
  obtain ⟨⟨rfl⟩, hLast⟩ := h
  induction before with
  | nil => simp [lastFound?, hLast]
  | cons step before ih =>
    have hLater : timesAsked Request.looksAtPod
        (before ++ .call (.getPod w.resource) (some (.ok found)) :: after) ≠ 0 := by
      simp [Request.looksAtPod]
    rw [List.cons_append]
    unfold lastFound?
    rw [if_neg hLater, ih]

namespace Workspace

variable {w : Workspace} {steps lead : List (Step interface)} {pod : Pod} {detection : List String}

theorem settled_of_isUsable {before : List (Step interface)} {found : Option Pod}
    (h : (Readiness.tick found w.options.completedPodPolicy).isUsable = true) :
    Settled w before found :=
  .usable h fun _ hPod => Readiness.isSound_of_isUsable (hPod ▸ h)

theorem settled_of_createPod (h : Runs (w.createPod pod detection) steps (some (.ok ()))) :
    ∃ before after found, LastLook w (lead ++ steps) before after found ∧ Settled w before found := by
  obtain ⟨rest, rfl, hSettle⟩ := runs_createPod_ok h
  obtain ⟨waiting, cleaning, result, rfl, hWait, hClean⟩ := runs_settlePod_ok hSettle
  obtain ⟨looking, found, rfl, hDecides⟩ := Readiness.decides_of_wait hWait
  have hLast : timesAsked Request.looksAtPod cleaning = 0 := by
    rw [timesAsked_eq_zero]
    intro r a hMem
    rw [hClean r a hMem]
    rfl
  exact ⟨lead ++ .call (.createPod (w.stamped pod)) (some (.ok ())) :: looking, cleaning, found,
    ⟨⟨by simp⟩, hLast⟩, settled_of_isUsable (Readiness.isUsable_of_verdict hDecides.last)⟩

end Workspace

namespace Launch

variable {w : Workspace} {l : Launch} {steps : List (Step interface)}

/-- A launch that succeeds last saw a pod that is usable, or none, unless its only look showed a pod
that carries the options. -/
theorem settled_of_runs_ok (h : Runs (l.program w) steps (some (.ok ()))) :
    ∃ before after found, LastLook w steps before after found ∧ Settled w before found := by
  obtain ⟨-, hFailed⟩ | ⟨opening, preparing, handling, plan, placement, detection, pod, rfl, hBuilds,
    hReplace⟩ := runs_program h
  · exact absurd rfl hFailed
  cases Workspace.replaces_of_runs hReplace with
  | unseen hAnswer hEnding => exact absurd rfl hEnding
  | undeleted hCarries hAnswer hEnding => exact absurd rfl hEnding
  | current hCarries =>
    have hFirst := hBuilds.isPreliminary.timesAsked fun _ => Request.stage_of_looksAtPod
    exact ⟨opening ++ preparing, [], some _, ⟨⟨rfl⟩, rfl⟩, .unchanged hFirst _ rfl hCarries⟩
  | absent hCreate =>
    rw [List.append_cons]
    exact Workspace.settled_of_createPod hCreate
  | replaced hCarries hCreate =>
    rw [List.append_cons, List.append_cons]
    exact Workspace.settled_of_createPod hCreate

/-- A launch that succeeds has looked at its pod, and its last look found what it should exactly when that
pod was not left alone unusable and no container of it is masked by one that has finished. -/
theorem isUsable_iff_of_runs_ok (h : Runs (l.program w) steps (some (.ok ()))) :
    ∃ before after found, LastLook w steps before after found ∧ Settled w before found ∧
      (IsUsable w found ↔ ¬LeavesUnusable w before found ∧ ¬MasksFailure w found) := by
  obtain ⟨before, after, found, hLook, hSettled⟩ := settled_of_runs_ok h
  exact ⟨before, after, found, hLook, hSettled, hSettled.isUsable_iff⟩

/-- A launch that creates a pod and sees it come up. -/
def smooth : Followed interface Simulation.Store Unit :=
  Simulation.Store.follow {} .trusted ((run (some .notes)).program .notes)

theorem isUsable_of_runs_ok_of_smooth :
    ∃ before after pod, Runs ((run (some .notes)).program .notes) smooth.steps (some (.ok ())) ∧
      LastLook .notes smooth.steps before after (some pod) ∧ IsUsable .notes (some pod) := by
  have hEnding := Followed.ending_of_succeeds (show smooth.succeeds = true by decide +kernel)
  have hRuns : Runs ((run (some .notes)).program .notes) smooth.steps (some (.ok ())) :=
    hEnding ▸ Simulation.Store.runs_follow _ _ _
  obtain ⟨before, after, found, hLook, -, hIff⟩ := isUsable_iff_of_runs_ok hRuns
  have hSeen : (lastFound? .notes smooth.steps).any (fun found => found.isSome &&
      (Readiness.tick found .restart).isUsable) = true := by decide +kernel
  rw [lastFound?_of_lastLook hLook, Option.any_some, Bool.and_eq_true] at hSeen
  obtain ⟨hSome, hTick⟩ := hSeen
  obtain ⟨pod, rfl⟩ := Option.isSome_iff_exists.1 hSome
  have hUsable : IsUsable .notes (some pod) := by
    refine hIff.2 ⟨?_, ?_⟩
    · rintro ⟨-, other, -, -, hNot⟩
      rw [show Workspace.notes.options.completedPodPolicy = .restart from rfl, hTick] at hNot
      cases hNot
    · rintro ⟨hPolicy, -⟩
      cases hPolicy
  exact ⟨before, after, pod, hRuns, hLook, hUsable⟩

def terminatingPod : Pod :=
  let pod := Workspace.notes.stamped {}
  { pod with metadata := { pod.metadata with deletionTimestamp := some ⟨0, 0⟩ } }

/-- A launch that finds the pod being deleted. -/
def hasty : Followed interface Simulation.Store Unit :=
  Simulation.Store.follow
    { pods := (∅ : Dict Simulation.StoredPod).insert Workspace.notes.resource
        ⟨terminatingPod, [.asIs]⟩ }
    .trusted ((run (some .notes)).program .notes)

/-- The workspace when pods may stay finished. -/
def lenient : Workspace :=
  { Workspace.notes with options := { Workspace.notes.options with completedPodPolicy := .exit } }

/-- A state in which the first container has finished and the second does not come up. -/
def halfFinished : PodStatus where
  containerStatuses := some [
    { name := Manifest.devContainerName, ready := false
      state := some (Simulation.ended 0 "Completed" none) },
    { name := "proxy", ready := false, state := some (Simulation.waits "CrashLoopBackOff") }]

/-- A launch whose pod comes to that state. -/
def halfway : Followed interface Simulation.Store Unit :=
  Simulation.Store.follow {} { phases := [.status halfFinished] }
    ((run (some .notes)).program lenient)

/-- A launch may succeed while its pod is being deleted, and while a container cannot come up. -/
theorem succeeds_while_unusable :
    (∃ before after found,
      Runs ((run (some .notes)).program .notes) hasty.steps (some (.ok ())) ∧
      LastLook .notes hasty.steps before after found ∧
      found.any (·.metadata.deletionTimestamp.isSome) = true ∧
      (Readiness.tick found .restart).isUsable = false) ∧
    ∃ before after found,
      Runs ((run (some .notes)).program lenient) halfway.steps (some (.ok ())) ∧
      LastLook lenient halfway.steps before after found ∧
      found.any (fun pod => (Readiness.containerStatuses pod).any fun status =>
        (Readiness.classify status).isCritical) = true := by
  have hHasty := Followed.ending_of_succeeds (show hasty.succeeds = true by decide +kernel)
  have hHalfway := Followed.ending_of_succeeds (show halfway.succeeds = true by decide +kernel)
  constructor
  · obtain ⟨before, after, found, hLook, hFound⟩ := exists_lastLook
      (w := .notes) (P := fun found => found.any (·.metadata.deletionTimestamp.isSome) &&
        !(Readiness.tick found .restart).isUsable)
      (show (lastFound? .notes hasty.steps).any _ = true by decide +kernel)
    obtain ⟨hTime, hTick⟩ := Bool.and_eq_true_iff.1 hFound
    exact ⟨before, after, found, hHasty ▸ Simulation.Store.runs_follow _ _ _, hLook, hTime,
      by simpa using hTick⟩
  · obtain ⟨before, after, found, hLook, hFound⟩ := exists_lastLook
      (show (lastFound? lenient halfway.steps).any (fun found => found.any fun pod =>
        (Readiness.containerStatuses pod).any fun status =>
          (Readiness.classify status).isCritical) = true by decide +kernel)
    exact ⟨before, after, found, hHalfway ▸ Simulation.Store.runs_follow _ _ _, hLook, hFound⟩

end Launch

end PodWorkspace
