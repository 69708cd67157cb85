import PodWorkspace.Proofs.Split
import PodWorkspace.Readiness.Wait

/-! What the decision on one observation of a pod says about the pod, and how it ends a wait. A pod
that is usable is not being deleted, and its containers are up, or one has finished and may stay
so. -/

namespace PodWorkspace.Readiness

open Cluster

/-- Whether a decision ends a wait without a failure. -/
def Tick.isUsable : Tick → Bool
  | .ready | .exited | .gone => true
  | .pending _ | .recycle _ | .critical .. => false

/-- Whether a container is in a state that it does not leave on its own. -/
def Outcome.isCritical : Outcome → Bool
  | .waitingCritical .. | .terminatedFailure .. => true
  | .ready | .running | .waitingTransient .. | .terminatedSuccess => false

@[simp] theorem tick_none (policy : CompletedPodPolicy) : tick none policy = .gone := rfl

theorem tick_some (pod : Pod) (policy : CompletedPodPolicy) :
    tick (some pod) policy =
      if pod.metadata.deletionTimestamp.isSome then
        .pending s!"Waiting, since pod '{pod.name}' is terminating"
      else if (containerStatuses pod).length < (declaredContainers pod).length then
        .pending s!"Waiting, since pod '{pod.name}' is starting"
      else
        ((initStatuses pod).findSome? (initTick pod.name (declaredInits pod))).getD
          (((containerStatuses pod).findSome? (containerTick pod.name policy)).getD .ready) := rfl

/-- A pod that is being deleted is never usable. -/
theorem deletionTimestamp_of_isUsable {pod : Pod} {policy : CompletedPodPolicy}
    (h : (tick (some pod) policy).isUsable = true) : pod.metadata.deletionTimestamp = none := by
  rw [tick_some] at h
  split at h
  · simp [Tick.isUsable] at h
  · rename_i hTime
    simpa using hTime

theorem isCritical_of_initTick {pod : String} {declared : List Container}
    {status : ContainerStatus} (h : initTick pod declared status = none) :
    (classify status).isCritical = false := by
  unfold initTick at h
  cases hClass : classify status <;> simp_all [Outcome.isCritical]

theorem isCritical_of_containerTick {pod : String} {policy : CompletedPodPolicy}
    {status : ContainerStatus} (h : containerTick pod policy status = none) :
    (classify status).isCritical = false := by
  unfold containerTick at h
  cases hClass : classify status <;> simp_all [Outcome.isCritical]

theorem isUsable_initTick {pod : String} {declared : List Container} {status : ContainerStatus}
    {t : Tick} (h : initTick pod declared status = some t) : t.isUsable = false := by
  unfold initTick at h
  cases t <;> grind [Tick.isUsable]

/-- Only a container that has finished, and may stay so, makes a decision that is usable. -/
theorem finished_of_isUsable {pod : String} {policy : CompletedPodPolicy} {status : ContainerStatus}
    {t : Tick} (h : containerTick pod policy status = some t) (hUsable : t.isUsable = true) :
    classify status = .terminatedSuccess ∧ policy = .exit := by
  unfold containerTick at h
  cases hClass : classify status <;> cases policy <;> simp_all <;> subst h <;>
    simp [Tick.isUsable] at hUsable

/-- In a pod that is usable no init container is in a critical state, and a container is so only when
one before it has finished and may stay so. -/
structure IsSound (pod : Pod) (policy : CompletedPodPolicy) : Prop where
  present : pod.metadata.deletionTimestamp = none
  inits : ∀ status ∈ initStatuses pod, (classify status).isCritical = false
  containers : ∀ before status after, containerStatuses pod = before ++ status :: after →
    (classify status).isCritical = true →
    policy = .exit ∧ ∃ other ∈ before, classify other = .terminatedSuccess

/-- A usable decision is left to the containers: all of them are reported, and the init containers
have no objection. -/
theorem tick_of_isUsable {pod : Pod} {policy : CompletedPodPolicy}
    (h : (tick (some pod) policy).isUsable = true) :
    (declaredContainers pod).length ≤ (containerStatuses pod).length ∧
      (∀ status ∈ initStatuses pod, initTick pod.name (declaredInits pod) status = none) ∧
      tick (some pod) policy =
        ((containerStatuses pod).findSome? (containerTick pod.name policy)).getD .ready := by
  have hTick := tick_some pod policy
  rw [deletionTimestamp_of_isUsable h, Option.isSome_none, if_neg Bool.false_ne_true] at hTick
  split at hTick
  · rw [hTick] at h
    cases h
  rename_i hReported
  cases hInit : (initStatuses pod).findSome? (initTick pod.name (declaredInits pod)) with
  | some t =>
    obtain ⟨status, -, hDecides⟩ := List.exists_of_findSome?_eq_some hInit
    rw [hTick, hInit, Option.getD_some, isUsable_initTick hDecides] at h
    cases h
  | none =>
    rw [hInit, Option.getD_none] at hTick
    exact ⟨Nat.not_lt.1 hReported, List.findSome?_eq_none_iff.1 hInit, hTick⟩

theorem isSound_of_isUsable {pod : Pod} {policy : CompletedPodPolicy}
    (h : (tick (some pod) policy).isUsable = true) : IsSound pod policy := by
  obtain ⟨-, hInits, hTick⟩ := tick_of_isUsable h
  refine ⟨deletionTimestamp_of_isUsable h,
    fun status hMem => isCritical_of_initTick (hInits status hMem), ?_⟩
  intro before status after hStatuses hCritical
  cases hMain : (containerStatuses pod).findSome? (containerTick pod.name policy) with
  | none =>
    rw [List.findSome?_eq_none_iff] at hMain
    simp [isCritical_of_containerTick (hMain status (by simp [hStatuses]))] at hCritical
  | some t =>
    -- The first container that is not up decides, and has finished; those before it are up, so a
    -- critical one comes later.
    obtain ⟨up, finished, more, hSplit, hDecides, hUp⟩ := List.findSome?_eq_some_iff.1 hMain
    have hUsable : t.isUsable = true := by rwa [hTick, hMain] at h
    obtain ⟨hFinished, hPolicy⟩ := finished_of_isUsable hDecides hUsable
    have hNotUp : status ∉ up := fun hMem => by
      simp [isCritical_of_containerTick (hUp status hMem)] at hCritical
    have hNe : status ≠ finished := fun hEq => by
      simp [hEq, hFinished, Outcome.isCritical] at hCritical
    exact ⟨hPolicy, finished, mem_of_append_eq (hSplit ▸ hStatuses) hNotUp hNe, hFinished⟩

/-- A decision about a pod other than to go on or to go ahead comes from a container. -/
theorem decider_of_tick {pod : Pod} {policy : CompletedPodPolicy} {t : Tick}
    (h : tick (some pod) policy = t) (hReady : t ≠ .ready)
    (hPending : ∀ reason, t ≠ .pending reason) :
    (∃ status, initTick pod.name (declaredInits pod) status = some t) ∨
      ∃ status ∈ containerStatuses pod, containerTick pod.name policy status = some t := by
  rw [tick_some] at h
  split at h
  · exact absurd h.symm (hPending _)
  split at h
  · exact absurd h.symm (hPending _)
  cases hInit : (initStatuses pod).findSome? (initTick pod.name (declaredInits pod)) with
  | some other =>
    obtain ⟨status, -, hTick⟩ := List.exists_of_findSome?_eq_some hInit
    obtain rfl : other = t := by simpa [hInit] using h
    exact .inl ⟨status, hTick⟩
  | none =>
    cases hMain : (containerStatuses pod).findSome? (containerTick pod.name policy) with
    | some other =>
      obtain ⟨status, hMem, hTick⟩ := List.exists_of_findSome?_eq_some hMain
      obtain rfl : other = t := by simpa [hInit, hMain] using h
      exact .inr ⟨status, hMem, hTick⟩
    | none => exact absurd (by simpa [hInit, hMain] using h.symm) hReady

theorem initTick_ne_recycle {pod : String} {declared : List Container} {status : ContainerStatus}
    {container : String} : initTick pod declared status ≠ some (.recycle container) := by
  unfold initTick
  grind

/-- Only a pod with a container that has finished is deleted, and only under the policy that says
so. -/
theorem finished_of_recycle {pod : Option Pod} {policy : CompletedPodPolicy} {container : String}
    (h : tick pod policy = .recycle container) :
    policy = .restart ∧ ∃ p, pod = some p ∧ ∃ status ∈ containerStatuses p,
      status.name = container ∧ classify status = .terminatedSuccess := by
  cases pod with
  | none => cases h
  | some p =>
    obtain ⟨status, hTick⟩ | ⟨status, hMem, hTick⟩ := decider_of_tick h nofun nofun
    · exact absurd hTick initTick_ne_recycle
    · unfold containerTick at hTick
      refine ⟨?_, p, rfl, status, hMem, ?_⟩ <;> grind

/-- Where finished pods are deleted, only a pod that is up is usable. -/
theorem ready_of_isUsable {pod : Pod} (h : (tick (some pod) .restart).isUsable = true) :
    tick (some pod) .restart = .ready := by
  by_contra hReady
  have hPending (reason : String) : tick (some pod) .restart ≠ .pending reason := fun hTick => by
    simp [hTick, Tick.isUsable] at h
  obtain ⟨status, hTick⟩ | ⟨status, -, hTick⟩ := decider_of_tick rfl hReady hPending
  · simp [isUsable_initTick hTick] at h
  · cases (finished_of_isUsable hTick h).2

/-! ### Verdicts -/

/-- How a decision ends a wait, if it does. -/
def verdict (name : String) (pod : Option Pod) : Tick → Option (Except Failure WaitEnd)
  | .ready => some (.ok (pod.elim .gone .ready))
  | .exited => some (.ok (pod.elim .gone .exited))
  | .gone => some (.ok .gone)
  | .critical container reason message =>
    some (.error (.criticalWorkload name container reason message))
  | .pending _ | .recycle _ => none

theorem isUsable_of_verdict {name : String} {pod : Option Pod} {t : Tick} {result : WaitEnd}
    (h : verdict name pod t = some (.ok result)) : t.isUsable = true := by
  cases t <;> first | rfl | cases h

end PodWorkspace.Readiness
