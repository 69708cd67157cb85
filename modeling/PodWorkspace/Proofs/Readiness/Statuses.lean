import PodWorkspace.Proofs.Manifest.Names
import PodWorkspace.Proofs.Readiness.Tick
import Mathlib.Data.List.Perm.Subperm

/-! What the statuses of its containers say about a pod. A pod is ready just when its init containers
have passed and every container is up; since statuses are counted and not looked up by name, that
covers each declared container only where the names fit. Once the init containers have passed, the
first container that is not up decides, so a failure that is reported after another one is not seen,
and a wait fails at once or not with the order of the statuses. -/

namespace PodWorkspace

open Cluster

/-- A pod with other statuses of its containers. -/
def Cluster.Pod.withStatuses (pod : Pod) (statuses : List ContainerStatus) : Pod :=
  { pod with status := some { pod.status.getD {} with containerStatuses := some statuses } }

namespace Readiness

variable {pod : Pod} {policy : CompletedPodPolicy} {declared : List Container} {name : String}
  {status : ContainerStatus} {statuses : List ContainerStatus} {t : Tick}

/-! ### Single statuses -/

/-- Whether a container waits. -/
def Outcome.isWaiting : Outcome → Bool
  | .waitingTransient .. | .waitingCritical .. => true
  | .ready | .running | .terminatedSuccess | .terminatedFailure .. => false

/-- Whether a container has failed. -/
def Outcome.isFailed : Outcome → Bool
  | .terminatedFailure .. => true
  | .ready | .running | .waitingTransient .. | .waitingCritical .. | .terminatedSuccess => false

/-- Whether a status reports that its container runs. -/
def isRunning (status : ContainerStatus) : Bool := (status.state.bind (·.running)).isSome

theorem isRunning_of_classify (h : classify status = .ready) :
    isRunning status = true ∧ status.ready = true := by
  unfold classify at h
  unfold isRunning
  cases hState : status.state with
  | none => simp [hState] at h
  | some state =>
    cases hWaiting : state.waiting <;> cases hTerminated : state.terminated <;>
      cases hRunning : state.running <;> simp_all <;> split at h <;> cases h

/-- Whether an init container runs beside the others: the first one that is declared under its name
says so. -/
def RunsBeside (declared : List Container) (name : String) : Prop :=
  ∃ c, Manifest.IsFirstNamed name declared c ∧ c.restartPolicy = some "Always"

theorem isSidecar_iff : isSidecar declared name = true ↔ RunsBeside declared name := by
  simp [isSidecar, RunsBeside, Option.bind_eq_some_iff, Manifest.find?_name_eq_some_iff]

/-- The ways in which an init container lets the pod go on. -/
inductive HasPassed (declared : List Container) (status : ContainerStatus) : Prop
  /-- It has done its work. -/
  | succeeded (hAlone : ¬RunsBeside declared status.name)
      (hSucceeded : classify status = .terminatedSuccess)
  /-- It runs beside the others, and is up. -/
  | up (hBeside : RunsBeside declared status.name) (hStarted : status.started = some true)
      (hReady : status.ready = true) (hWaiting : (classify status).isWaiting = false)
      (hFailed : (classify status).isFailed = false)

theorem initTick_eq_none_iff : initTick name declared status = none ↔ HasPassed declared status := by
  have hOutcome : initTick name declared status = none ↔
      if isSidecar declared status.name then status.started = some true ∧ status.ready = true ∧
        (classify status).isWaiting = false ∧ (classify status).isFailed = false
      else classify status = .terminatedSuccess := by
    unfold initTick
    dsimp only
    cases classify status <;> cases isSidecar declared status.name <;>
      simp [Outcome.isWaiting, Outcome.isFailed]
  rw [hOutcome]
  by_cases hBeside : RunsBeside declared status.name
  · rw [if_pos (isSidecar_iff.2 hBeside)]
    constructor
    · rintro ⟨hStarted, hReady, hWaiting, hFailed⟩
      exact .up hBeside hStarted hReady hWaiting hFailed
    · rintro (⟨hAlone, -⟩ | ⟨-, hStarted, hReady, hWaiting, hFailed⟩)
      · exact absurd hBeside hAlone
      · exact ⟨hStarted, hReady, hWaiting, hFailed⟩
  · rw [if_neg (mt isSidecar_iff.1 hBeside)]
    constructor
    · exact .succeeded hBeside
    · rintro (⟨-, hSucceeded⟩ | ⟨hBeside', -⟩)
      · exact hSucceeded
      · exact absurd hBeside' hBeside

theorem containerTick_eq_none_iff :
    containerTick name policy status = none ↔ classify status = .ready := by
  unfold containerTick
  cases classify status <;> cases policy <;> simp

/-! ### Pods that are up -/

/-- A pod whose decision is up to its containers: it is not being deleted, all its containers are
reported, and its init containers have passed. -/
structure HasStarted (pod : Pod) : Prop where
  present : pod.metadata.deletionTimestamp = none
  reported : (declaredContainers pod).length ≤ (containerStatuses pod).length
  inits : ∀ status ∈ initStatuses pod, HasPassed (declaredInits pod) status

/-- A pod all of whose containers are up. -/
structure IsUp (pod : Pod) : Prop extends HasStarted pod where
  containers : ∀ status ∈ containerStatuses pod, classify status = .ready

theorem tick_of_hasStarted (h : HasStarted pod) : tick (some pod) policy =
    ((containerStatuses pod).findSome? (containerTick pod.name policy)).getD .ready := by
  have hInits : (initStatuses pod).findSome? (initTick pod.name (declaredInits pod)) = none :=
    List.findSome?_eq_none_iff.2 fun status hMem => initTick_eq_none_iff.2 (h.inits status hMem)
  rw [tick_some, h.present, Option.isSome_none, if_neg Bool.false_ne_true,
    if_neg (Nat.not_lt.2 h.reported), hInits, Option.getD_none]

theorem hasStarted_of_isUsable (h : (tick (some pod) policy).isUsable = true) : HasStarted pod := by
  obtain ⟨hReported, hInits, -⟩ := tick_of_isUsable h
  exact ⟨deletionTimestamp_of_isUsable h, hReported,
    fun status hMem => initTick_eq_none_iff.1 (hInits status hMem)⟩

theorem containerTick_ne_ready : containerTick name policy status ≠ some .ready := by
  unfold containerTick
  cases classify status <;> cases policy <;> simp

theorem tick_eq_ready_iff_isUp : tick (some pod) policy = .ready ↔ IsUp pod := by
  constructor
  · intro h
    have hStarted : HasStarted pod := hasStarted_of_isUsable (by rw [h]; rfl)
    rw [tick_of_hasStarted hStarted] at h
    refine ⟨hStarted, fun status hMem => ?_⟩
    cases hFirst : (containerStatuses pod).findSome? (containerTick pod.name policy) with
    | none => exact containerTick_eq_none_iff.1 (List.findSome?_eq_none_iff.1 hFirst status hMem)
    | some t =>
      obtain ⟨other, -, hTick⟩ := List.exists_of_findSome?_eq_some hFirst
      obtain rfl : t = .ready := by simpa [hFirst] using h
      exact absurd hTick containerTick_ne_ready
  · intro h
    have hNone : (containerStatuses pod).findSome? (containerTick pod.name policy) = none :=
      List.findSome?_eq_none_iff.2 fun status hMem =>
        containerTick_eq_none_iff.2 (h.containers status hMem)
    rw [tick_of_hasStarted h.toHasStarted, hNone]
    rfl

/-- As many different names as there are containers, all of them declared, are those that are
declared. -/
theorem perm_names_of_declared (hNodup : (statuses.map (·.name)).Nodup)
    (hDeclared : ∀ status ∈ statuses, ∃ c ∈ declared, c.name = status.name)
    (hLength : declared.length ≤ statuses.length) :
    (statuses.map (·.name)).Perm (declared.map (·.name)) := by
  have hSubset : statuses.map (·.name) ⊆ declared.map (·.name) := by
    intro name hMem
    obtain ⟨status, hStatus, rfl⟩ := List.mem_map.1 hMem
    exact List.mem_map.2 (hDeclared status hStatus)
  exact (hNodup.subperm hSubset).perm_of_length_le (by simpa using hLength)

/-- A pod is ready exactly when it is up, and where the names of the statuses are different and
declared each declared container then runs and is ready. -/
theorem ready_iff_isUp (pod : Option Pod) (policy : CompletedPodPolicy) :
    (tick pod policy = .ready ↔ ∃ p, pod = some p ∧ IsUp p) ∧
      ∀ p, pod = some p → tick pod policy = .ready →
        ((containerStatuses p).map (·.name)).Nodup →
        (∀ status ∈ containerStatuses p, ∃ c ∈ declaredContainers p, c.name = status.name) →
        ∀ c ∈ declaredContainers p, ∃ status ∈ containerStatuses p,
          status.name = c.name ∧ isRunning status = true ∧ status.ready = true := by
  constructor
  · cases pod with
    | none => simp
    | some p => simp [tick_eq_ready_iff_isUp]
  · rintro p rfl hReady hNodup hDeclared c hMem
    have hUp : IsUp p := tick_eq_ready_iff_isUp.1 hReady
    have hPerm := perm_names_of_declared hNodup hDeclared hUp.reported
    have hName : c.name ∈ (containerStatuses p).map (·.name) :=
      hPerm.mem_iff.2 (List.mem_map_of_mem hMem)
    obtain ⟨status, hStatus, hSame⟩ := List.mem_map.1 hName
    exact ⟨status, hStatus, hSame, isRunning_of_classify (hUp.containers status hStatus)⟩

/-- The status of a container that is up. -/
def runningStatus (name : String) : ContainerStatus where
  name
  ready := true
  started := some true
  state := some { running := some [] }

/-- The status of a container that waits for a reason. -/
def waitingStatus (name reason : String) : ContainerStatus where
  name
  state := some { waiting := some { reason := some reason } }

/-- The status of a container that has finished. -/
def finishedStatus (name : String) (exitCode : Int) : ContainerStatus where
  name
  state := some { terminated := some { exitCode } }

/-- A pod with two containers, beside which an init container runs. -/
def meshedPod (statuses : List ContainerStatus) : Pod where
  metadata := { name := some "devpod-notes" }
  spec := some {
    containers := [{ name := "devpod" }, { name := "proxy" }]
    initContainers := some [{ name := "setup" }, { name := "mesh", restartPolicy := some "Always" }] }
  status := some {
    containerStatuses := some statuses
    initContainerStatuses := some [finishedStatus "setup" 0, runningStatus "mesh"] }

theorem hasStarted_meshedPod (h : 2 ≤ statuses.length) : HasStarted (meshedPod statuses) where
  present := rfl
  reported := h
  inits := by
    have hPassed : ∀ status ∈ [finishedStatus "setup" 0, runningStatus "mesh"],
        initTick "" (declaredInits (meshedPod [])) status = none := by decide +kernel
    exact fun status hMem => initTick_eq_none_iff.1 (hPassed status hMem)

/-- Both of its containers run, although they are reported in another order than they are declared
in. -/
theorem ready_iff_isUp_of_meshedPod :
    let pod := meshedPod [runningStatus "proxy", runningStatus "devpod"]
    tick (some pod) .restart = .ready ∧ IsUp pod ∧
      ((containerStatuses pod).map (·.name)).Nodup ∧
      (∀ status ∈ containerStatuses pod, ∃ c ∈ declaredContainers pod, c.name = status.name) ∧
      ∀ c ∈ declaredContainers pod, ∃ status ∈ containerStatuses pod,
        status.name = c.name ∧ isRunning status = true ∧ status.ready = true := by
  intro pod
  have hReady : tick (some pod) .restart = .ready := by decide +kernel
  have hNodup : ((containerStatuses pod).map (·.name)).Nodup := by decide
  have hDeclared : ∀ status ∈ containerStatuses pod, ∃ c ∈ declaredContainers pod,
      c.name = status.name := by decide
  obtain ⟨hIff, hCovers⟩ := ready_iff_isUp (some pod) .restart
  obtain ⟨_, hPod, hUp⟩ := hIff.1 hReady
  cases hPod
  exact ⟨hReady, hUp, hNodup, hDeclared, hCovers pod rfl hReady hNodup hDeclared⟩

/-! ### The order of the statuses -/

/-- Whether a decision is that a container is in a critical state. -/
def Tick.isCritical : Tick → Bool
  | .critical .. => true
  | .gone | .ready | .pending _ | .recycle _ | .exited => false

theorem isCritical_of_containerTick_eq (h : containerTick name policy status = some t) :
    t.isCritical = (classify status).isCritical := by
  unfold containerTick at h
  cases hClass : classify status <;> cases policy <;> simp_all <;> subst h <;> rfl

/-- Whether the first container that is not up is in a critical state. -/
def FailsFirst (statuses : List ContainerStatus) : Prop :=
  ∃ before status after, statuses = before ++ status :: after ∧
    (∀ other ∈ before, classify other = .ready) ∧ (classify status).isCritical = true

theorem FailsFirst.exists_critical (h : FailsFirst statuses) :
    ∃ status ∈ statuses, (classify status).isCritical = true := by
  obtain ⟨before, status, after, rfl, -, hCritical⟩ := h
  exact ⟨status, by simp, hCritical⟩

theorem isCritical_tick_iff (h : HasStarted pod) :
    (tick (some pod) policy).isCritical = true ↔ FailsFirst (containerStatuses pod) := by
  rw [tick_of_hasStarted h]
  constructor
  · intro hCritical
    cases hFirst : (containerStatuses pod).findSome? (containerTick pod.name policy) with
    | none =>
      rw [hFirst] at hCritical
      cases hCritical
    | some t =>
      obtain ⟨before, status, after, hSplit, hTick, hBefore⟩ := List.findSome?_eq_some_iff.1 hFirst
      refine ⟨before, status, after, hSplit, fun other hMem =>
        containerTick_eq_none_iff.1 (hBefore other hMem), ?_⟩
      rw [← isCritical_of_containerTick_eq hTick]
      simpa [hFirst] using hCritical
  · rintro ⟨before, status, after, hSplit, hBefore, hCritical⟩
    cases hTick : containerTick pod.name policy status with
    | none =>
      rw [containerTick_eq_none_iff.1 hTick] at hCritical
      cases hCritical
    | some t =>
      have hFirst : (containerStatuses pod).findSome? (containerTick pod.name policy) = some t :=
        List.findSome?_eq_some_iff.2 ⟨before, status, after, hSplit, hTick, fun other hMem =>
          containerTick_eq_none_iff.2 (hBefore other hMem)⟩
      rw [hFirst, Option.getD_some, isCritical_of_containerTick_eq hTick, hCritical]

/-- A failure among containers that are up or have failed is the first that is not up. -/
theorem failsFirst_iff_of_forall
    (h : ∀ status ∈ statuses, classify status = .ready ∨ (classify status).isCritical = true) :
    FailsFirst statuses ↔ ∃ status ∈ statuses, (classify status).isCritical = true := by
  refine ⟨FailsFirst.exists_critical, fun hSome => ?_⟩
  induction statuses with
  | nil => simp at hSome
  | cons first rest ih =>
    obtain hReady | hCritical := h first List.mem_cons_self
    · have hLater : ∃ status ∈ rest, (classify status).isCritical = true := by
        simpa [hReady, Outcome.isCritical] using hSome
      obtain ⟨before, status, after, rfl, hBefore, hCritical⟩ :=
        ih (fun status hMem => h status (List.mem_cons_of_mem _ hMem)) hLater
      exact ⟨first :: before, status, after, rfl,
        List.forall_mem_cons.2 ⟨hReady, hBefore⟩, hCritical⟩
    · exact ⟨[], first, rest, rfl, List.forall_mem_nil _, hCritical⟩

/-- A list that begins with a container that is not up fails first when that one is in a critical
state. -/
theorem failsFirst_cons_iff (hNotUp : classify status ≠ .ready) :
    FailsFirst (status :: statuses) ↔ (classify status).isCritical = true := by
  constructor
  · rintro ⟨before, other, after, hSplit, hBefore, hCritical⟩
    cases before with
    | nil =>
      obtain ⟨rfl, -⟩ := List.cons.inj hSplit
      exact hCritical
    | cons first before =>
      obtain ⟨rfl, -⟩ := List.cons.inj hSplit
      exact absurd (hBefore _ List.mem_cons_self) hNotUp
  · intro hCritical
    exact ⟨[], status, statuses, rfl, List.forall_mem_nil _, hCritical⟩

/-- The order does not matter exactly when no container is in a critical state, or all others are
up. -/
theorem failsFirst_perm_iff :
    (∀ other, other.Perm statuses → (FailsFirst other ↔ FailsFirst statuses)) ↔
      (∀ status ∈ statuses, (classify status).isCritical = false) ∨
        ∀ status ∈ statuses, classify status = .ready ∨ (classify status).isCritical = true := by
  constructor
  · intro hSame
    -- Each status that is not up can be put in front, where it decides.
    have hFront {status : ContainerStatus} (hMem : status ∈ statuses)
        (hNotUp : classify status ≠ .ready) :
        FailsFirst statuses ↔ (classify status).isCritical = true := by
      obtain ⟨before, after, rfl⟩ := List.append_of_mem hMem
      rw [← hSame _ List.perm_middle.symm, failsFirst_cons_iff hNotUp]
    by_contra! hMixed
    obtain ⟨⟨failed, hFailed, hCritical⟩, other, hOther, hNotUp, hNotCritical⟩ := hMixed
    rw [ne_eq, Bool.not_eq_false] at hCritical
    have hFailedNotUp : classify failed ≠ .ready := fun hReady => by
      rw [hReady] at hCritical
      cases hCritical
    exact hNotCritical ((hFront hOther hNotUp).1 ((hFront hFailed hFailedNotUp).2 hCritical))
  · rintro (hNone | hAll) other hPerm
    · have hNever {others : List ContainerStatus} (hPerm : others.Perm statuses) :
          ¬FailsFirst others := fun hFails => by
        obtain ⟨status, hMem, hCritical⟩ := hFails.exists_critical
        simp [hNone status (hPerm.mem_iff.1 hMem)] at hCritical
      exact iff_of_false (hNever hPerm) (hNever (.refl _))
    · rw [failsFirst_iff_of_forall hAll,
        failsFirst_iff_of_forall fun status hMem => hAll status (hPerm.mem_iff.1 hMem)]
      simp only [hPerm.mem_iff]

/-- Other statuses, as many of them, leave a pod started. -/
theorem HasStarted.withStatuses (h : HasStarted pod)
    (hPerm : statuses.Perm (containerStatuses pod)) : HasStarted (pod.withStatuses statuses) where
  present := h.present
  reported := by
    rw [show containerStatuses (pod.withStatuses statuses) = statuses from rfl, hPerm.length_eq]
    exact h.reported
  inits := by
    have hInits : initStatuses (pod.withStatuses statuses) = initStatuses pod := by
      unfold initStatuses Pod.withStatuses
      cases pod.status <;> rfl
    rw [hInits]
    exact h.inits

/-- A pod that has started fails a wait exactly when its first container that is not up is in a
critical state, and it does so in every order of its statuses or in none exactly when no container is
in a critical state or all others are up. -/
theorem failsFast_iff_of_hasStarted (h : HasStarted pod) (policy : CompletedPodPolicy) :
    ((tick (some pod) policy).isCritical = true ↔ FailsFirst (containerStatuses pod)) ∧
      ((∀ statuses, statuses.Perm (containerStatuses pod) →
          ((tick (some (pod.withStatuses statuses)) policy).isCritical = true ↔
            (tick (some pod) policy).isCritical = true)) ↔
        (∀ status ∈ containerStatuses pod, (classify status).isCritical = false) ∨
          ∀ status ∈ containerStatuses pod,
            classify status = .ready ∨ (classify status).isCritical = true) := by
  refine ⟨isCritical_tick_iff h, ?_⟩
  rw [← failsFirst_perm_iff]
  refine forall₂_congr fun statuses hPerm => ?_
  rw [isCritical_tick_iff h, isCritical_tick_iff (h.withStatuses hPerm)]
  rfl

/-- A pod with a container that is up and one that has crashed is critical in both orders. -/
theorem failsFast_iff_of_meshedPod :
    let pod := meshedPod [runningStatus "devpod", waitingStatus "proxy" "CrashLoopBackOff"]
    HasStarted pod ∧ ∀ statuses, statuses.Perm (containerStatuses pod) →
      (tick (some (pod.withStatuses statuses)) .restart).isCritical = true := by
  intro pod
  have hStarted : HasStarted pod := hasStarted_meshedPod (Nat.le_refl 2)
  have hCritical : (tick (some pod) .restart).isCritical = true :=
    (isCritical_tick_iff hStarted).2 ⟨[_], _, [], rfl, by decide, by decide⟩
  have hSame := (failsFast_iff_of_hasStarted hStarted .restart).2.2 (.inr (by decide))
  exact ⟨hStarted, fun statuses hPerm => (hSame statuses hPerm).2 hCritical⟩

/-- A container that has crashed is not seen behind one that is being created, and in the other order
it is. -/
theorem meshedPod_masks_failure :
    let pod := meshedPod
      [waitingStatus "devpod" "ContainerCreating", waitingStatus "proxy" "CrashLoopBackOff"]
    HasStarted pod ∧ (∃ status ∈ containerStatuses pod, (classify status).isCritical = true) ∧
      ∀ policy, (tick (some pod) policy).isCritical = false ∧
        (tick (some (pod.withStatuses (containerStatuses pod).reverse)) policy).isCritical = true := by
  intro pod
  have hStarted : HasStarted pod := hasStarted_meshedPod (Nat.le_refl 2)
  refine ⟨hStarted, by decide, fun policy => ⟨?_, ?_⟩⟩
  · rw [← Bool.not_eq_true, isCritical_tick_iff hStarted]
    exact mt (failsFirst_cons_iff (by decide)).1 (by decide)
  · rw [isCritical_tick_iff (hStarted.withStatuses (List.reverse_perm _))]
    exact (failsFirst_cons_iff (by decide)).2 (by decide)

end Readiness

end PodWorkspace
