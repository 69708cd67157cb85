import PodWorkspace.Proofs.Dict
import PodWorkspace.Proofs.Options.Snapshot
import PodWorkspace.Proofs.Workspace.Launch

/-! How a launch handles its pod: it looks at the pod that is there, leaves it alone or deletes it,
and creates its own. Every pod that is created carries a snapshot of the options. -/

namespace PodWorkspace

open Cluster Program

/-- Whether a pod carries a snapshot of the options. -/
def Cluster.Pod.Carries (pod : Pod) (o : ManifestOptions) : Prop :=
  ∃ raw, pod.metadata.annotation? lastAppliedAnnotation = some raw ∧
    ManifestOptions.ofSnapshot raw = .ok o

/-- A look at the pod of a workspace among some steps, and what it finds. -/
structure Look (w : Workspace) (steps before after : List (Step interface)) (found : Option Pod) :
    Prop where
  steps_eq : steps = before ++ .call (.getPod w.resource) (some (.ok found)) :: after

namespace Workspace

variable {w : Workspace} {steps : List (Step interface)} {ending : Result Unit} {pod : Pod}
  {detection : List String}

/-- Whatever annotations a pod has, it carries the options once it is stamped. -/
theorem carries_stamped (w : Workspace) (pod : Pod) :
    (w.stamped pod).Carries w.options.manifest :=
  ⟨w.options.manifest.snapshot, Dict.get?_insert_self _ _ _,
    ManifestOptions.ofSnapshot_snapshot w.options.manifest⟩

theorem runs_isCurrent {existing : Pod} {ending : Result Bool} :
    Runs (w.isCurrent existing) steps ending ↔
      steps = [] ∧ ∃ current, ending = some (.ok current) ∧
        (current = true ↔ existing.Carries w.options.manifest) := by
  unfold isCurrent Pod.Carries
  cases existing.metadata.annotation? lastAppliedAnnotation with
  | none => simp
  | some raw =>
    cases hRead : ManifestOptions.ofSnapshot raw with
    | error f => simp [hRead]
    | ok previous =>
      have hSame : (previous == w.options.manifest) = true ↔ previous = w.options.manifest :=
        beq_iff_eq
      cases hBeq : previous == w.options.manifest <;> simp [hRead, hBeq, ← hSame]

/-- What may be asked once a pod is created: for the pod, to delete it when it has finished, and to
remove the detection pods. -/
def IsAftercare (w : Workspace) (r : Request) : Prop :=
  Readiness.IsAbout w.resource r ∨ r = .forceDeletePods w.name.detectionSelector

theorem asksOnly_tellEnd {P : Request → Prop} (result : Readiness.WaitEnd) :
    AsksOnly P (w.tellEnd result) := by
  cases result with
  | ready pod => exact asksOnly_done ()
  | exited pod => exact asksOnly_tell _ _ _
  | gone => exact asksOnly_tell _ _ _

theorem asksOnly_removeDetection :
    AsksOnly (fun r : Request => r = .forceDeletePods w.name.detectionSelector)
      (w.removeDetection detection) := by
  cases detection with
  | nil => exact asksOnly_done ()
  | cons found more => exact (asksOnly_tell _ _ _).andThen fun _ => asksOnly_request rfl

theorem asksOnly_settlePod : AsksOnly w.IsAftercare (w.settlePod detection) :=
  (asksOnly_tell _ _ _).andThen fun _ =>
    (Readiness.asksOnly_wait.mono fun _ => .inl).andThen fun result =>
      (asksOnly_tellEnd result).andThen fun _ => asksOnly_removeDetection.mono fun _ => .inr

/-- The removal of the detection pods, where there are any. -/
def removal (w : Workspace) : List String → List (Step interface)
  | [] => []
  | _ :: _ => [.call (.forceDeletePods w.name.detectionSelector) (some (.ok ()))]

/-- A pod that has settled was waited for with success, and then the detection pods were removed. -/
theorem runs_settlePod_cut (h : Runs (w.settlePod detection) steps (some (.ok ()))) :
    ∃ waiting result, steps = waiting ++ w.removal detection ∧
      Runs (w.waitFor w.resource) waiting (some (.ok result)) := by
  simp only [settlePod, bind_eq_andThen, tell_andThen, runs_log] at h
  obtain ⟨waiting, result, _, rfl, hWait, hRest⟩ := runs_andThen_ok.1 h
  obtain ⟨telling, _, removing, rfl, hTell, hRemove⟩ := runs_andThen_ok.1 hRest
  have hSilent : telling = [] := by
    cases result with
    | ready pod => exact (runs_done.1 hTell).1
    | exited pod => exact (runs_tell.1 hTell).1
    | gone => exact (runs_tell.1 hTell).1
  refine ⟨waiting, result, ?_, hWait⟩
  rw [hSilent, List.nil_append]
  cases detection with
  | nil => rw [(runs_done.1 hRemove).1, removal]
  | cons found more =>
    obtain ⟨answer, rfl, hAnswer⟩ := runs_request.1 (runs_log.1 hRemove)
    rcases answer with _ | (f | _) <;> cases hAnswer
    rfl

/-- Once a pod has settled only the removal of the detection pods is asked for. -/
theorem runs_settlePod_ok (h : Runs (w.settlePod detection) steps (some (.ok ()))) :
    ∃ waiting cleaning result, steps = waiting ++ cleaning ∧
      Runs (w.waitFor w.resource) waiting (some (.ok result)) ∧
      ∀ r a, .call r a ∈ cleaning → r = Request.forceDeletePods w.name.detectionSelector := by
  obtain ⟨waiting, result, rfl, hWait⟩ := runs_settlePod_cut h
  refine ⟨waiting, w.removal detection, result, rfl, hWait, fun r a hMem => ?_⟩
  cases detection with
  | nil => cases hMem
  | cons found more =>
    cases List.mem_singleton.1 hMem
    rfl

theorem runs_createPod (h : Runs (w.createPod pod detection) steps ending) :
    ∃ answer rest, steps = .call (.createPod (w.stamped pod)) answer :: rest ∧
      ∀ r a, .call r a ∈ rest → w.IsAftercare r := by
  obtain ⟨answer, rest, rfl, hRest⟩ := runs_request_andThen.1 (runs_log.1 h)
  refine ⟨answer, rest, rfl, ?_⟩
  rcases answer with _ | (f | u)
  · obtain ⟨rfl, -⟩ := runs_fail.1 hRest
    simp
  · obtain ⟨rfl, -⟩ := runs_fail.1 hRest
    simp
  · exact asksOnly_settlePod hRest

theorem runs_createPod_ok (h : Runs (w.createPod pod detection) steps (some (.ok ()))) :
    ∃ rest, steps = .call (.createPod (w.stamped pod)) (some (.ok ())) :: rest ∧
      Runs (w.settlePod detection) rest (some (.ok ())) := by
  obtain ⟨_, rest, rfl, hRest⟩ := runs_request_andThen_ok.1 (runs_log.1 h)
  exact ⟨rest, rfl, hRest⟩

/-- What may be asked to put a pod in the place of the one that is there. -/
def IsReplacement (w : Workspace) (pod : Pod) (r : Request) : Prop :=
  w.IsAftercare r ∨ r = .deletePodAndWait w.resource w.options.podTimeout ∨
    r = .createPod (w.stamped pod)

theorem stage_of_isReplacement {r : Request} (h : w.IsReplacement pod r) :
    r.stage = some .handling := by
  obtain ((rfl | rfl) | rfl) | rfl | rfl := h <;> rfl

theorem asksOnly_createPod : AsksOnly (w.IsReplacement pod) (w.createPod pod detection) :=
  (asksOnly_tell _ _ _).andThen fun _ => (asksOnly_request (.inr (.inr rfl))).andThen fun _ =>
    asksOnly_settlePod.mono fun _ => .inl

theorem asksOnly_replacePod : AsksOnly (w.IsReplacement pod) (w.replacePod pod detection) := by
  refine (asksOnly_request (.inl (.inl (.inl rfl)))).andThen fun found => ?_
  rcases found with _ | existing
  · exact asksOnly_createPod
  · have hLook : AsksOnly (w.IsReplacement pod) (w.isCurrent existing) := by
      intro steps ending hRun
      simp [(runs_isCurrent.1 hRun).1]
    refine hLook.andThen fun current => ?_
    cases current with
    | true => exact asksOnly_tell _ _ _
    | false => exact (asksOnly_tell _ _ _).andThen fun _ =>
        (asksOnly_request (.inr (.inl rfl))).andThen fun _ => asksOnly_createPod

theorem staysIn_replacePod : StaysIn .handling (w.replacePod pod detection) :=
  asksOnly_replacePod.mono fun _ => stage_of_isReplacement

/-- The pod that is created is the stamped one. -/
theorem created_of_replacePod (h : Runs (w.replacePod pod detection) steps ending) {p : Pod}
    {a : Result Unit} (hMem : .call (.createPod p) a ∈ steps) : p = w.stamped pod := by
  obtain ((hOther | hOther) | hOther) | hOther | hSame := asksOnly_replacePod h _ _ hMem
  · cases hOther
  · cases hOther
  · cases hOther
  · cases hOther
  · exact Request.createPod.inj hSame

/-- Once its plan is found, a launch only prepares and handles its pod. -/
theorem asksOnly_applyPod (plan : Plan) : AsksOnly
    (fun r : Request => r.stage = some .preparing ∨ r.stage = some .handling) (w.applyPod plan) :=
  ((staysIn_preparePod _).mono fun _ => .inl).andThen fun _ =>
    (asksOnly_ofLogged _).andThen fun _ => staysIn_replacePod.mono fun _ => .inr

/-- The ways in which the pod of a workspace is replaced. -/
inductive Replaces (w : Workspace) (pod : Pod) (detection : List String) :
    List (Step interface) → Result Unit → Prop
  /-- The pod that is there could not be looked at. -/
  | unseen {answer : Result (Option Pod)} {ending : Result Unit}
      (hAnswer : ∀ found, answer ≠ some (.ok found)) (hEnding : ending ≠ some (.ok ())) :
      Replaces w pod detection [.call (.getPod w.resource) answer] ending
  /-- There is no pod. -/
  | absent {rest : List (Step interface)} {ending : Result Unit}
      (hCreate : Runs (w.createPod pod detection) rest ending) :
      Replaces w pod detection (.call (.getPod w.resource) (some (.ok none)) :: rest) ending
  /-- The pod carries the options already. -/
  | current {existing : Pod} (hCarries : existing.Carries w.options.manifest) :
      Replaces w pod detection [.call (.getPod w.resource) (some (.ok (some existing)))]
        (some (.ok ()))
  /-- The pod that is there could not be deleted. -/
  | undeleted {existing : Pod} {answer : Result Unit} {ending : Result Unit}
      (hCarries : ¬existing.Carries w.options.manifest) (hAnswer : answer ≠ some (.ok ()))
      (hEnding : ending ≠ some (.ok ())) :
      Replaces w pod detection [.call (.getPod w.resource) (some (.ok (some existing))),
        .call (.deletePodAndWait w.resource w.options.podTimeout) answer] ending
  /-- The pod that is there is deleted first. -/
  | replaced {existing : Pod} {rest : List (Step interface)} {ending : Result Unit}
      (hCarries : ¬existing.Carries w.options.manifest)
      (hCreate : Runs (w.createPod pod detection) rest ending) :
      Replaces w pod detection (.call (.getPod w.resource) (some (.ok (some existing))) ::
        .call (.deletePodAndWait w.resource w.options.podTimeout) (some (.ok ())) :: rest) ending

theorem replaces_of_runs (h : Runs (w.replacePod pod detection) steps ending) :
    w.Replaces pod detection steps ending := by
  obtain ⟨answer, rest, rfl, hRest⟩ := runs_request_andThen.1 h
  rcases answer with _ | (f | _ | existing)
  · obtain ⟨rfl, rfl⟩ := runs_fail.1 hRest
    exact .unseen (fun _ => nofun) nofun
  · obtain ⟨rfl, rfl⟩ := runs_fail.1 hRest
    exact .unseen (fun _ => nofun) nofun
  · exact .absent hRest
  · obtain ⟨looking, r, after, rfl, hLook, hAfter⟩ := runs_andThen.1 hRest
    obtain ⟨rfl, current, rfl, hCurrent⟩ := runs_isCurrent.1 hLook
    cases current with
    | true =>
      obtain ⟨rfl, rfl⟩ := runs_tell.1 hAfter
      exact .current (hCurrent.1 rfl)
    | false =>
      have hOther : ¬existing.Carries w.options.manifest := fun hCarries => by
        simpa using hCurrent.2 hCarries
      obtain ⟨deletion, later, rfl, hLater⟩ := runs_request_andThen.1 (runs_log.1 hAfter)
      rcases deletion with _ | (f | u)
      · obtain ⟨rfl, rfl⟩ := runs_fail.1 hLater
        exact .undeleted hOther nofun nofun
      · obtain ⟨rfl, rfl⟩ := runs_fail.1 hLater
        exact .undeleted hOther nofun nofun
      · exact .replaced hOther hLater

end Workspace

namespace Launch

variable {w : Workspace} {l : Launch} {steps : List (Step interface)} {ending : Result Unit}

/-- A pod that a launch creates is the one that it has built. -/
theorem builds_of_created (h : Runs (l.program w) steps ending) {p : Pod} {a : Result Unit}
    (hMem : .call (.createPod p) a ∈ steps) :
    ∃ opening preparing handling plan placement detection pod,
      steps = opening ++ preparing ++ handling ∧
      l.Builds w opening preparing plan placement detection pod ∧
      Runs (w.replacePod pod detection) handling ending ∧ p = w.stamped pod := by
  obtain ⟨hNone, -⟩ | ⟨opening, preparing, handling, plan, placement, detection, pod, rfl, hBuilds,
    hReplace⟩ := runs_program h
  · exact absurd rfl (hNone _ _ hMem)
  · refine ⟨opening, preparing, handling, plan, placement, detection, pod, rfl, hBuilds, hReplace, ?_⟩
    rcases List.mem_append.1 hMem with hMem | hMem
    · exact absurd rfl (hBuilds.isPreliminary _ _ hMem)
    · exact Workspace.created_of_replacePod hReplace hMem

section Claims

variable {opening preparing handling : List (Step interface)} {plan : Workspace.Plan}
  {placement : Manifest.Placement} {detection : List String} {pod : Pod}

/-- Only the first stage of a launch changes claims. -/
theorem changesClaims_eq_false (h : l.Builds w opening preparing plan placement detection pod)
    (hReplace : Runs (w.replacePod pod detection) handling ending) {r : Request} {a : Result r.Answer}
    (hMem : .call r a ∈ preparing ++ handling) : r.changesClaims = false := by
  rw [Bool.eq_false_iff]
  intro hChanges
  rcases List.mem_append.1 hMem with hMem | hMem
  · simpa [Workspace.staysIn_preparePod _ h.prepared r a hMem] using
      Request.stage_of_changesClaims hChanges
  · simpa [Workspace.staysIn_replacePod hReplace r a hMem] using
      Request.stage_of_changesClaims hChanges

/-- A launch creates the claim when its plan is fresh. -/
theorem createsClaim_iff_fresh (h : l.Builds w opening preparing plan placement detection pod)
    (hReplace : Runs (w.replacePod pod detection) handling ending) :
    (∃ claim, .call (.createClaim claim) (some (.ok ())) ∈ opening ++ preparing ++ handling) ↔
      plan.fresh = true := by
  have hOpening (claim : VolumeClaim) :
      .call (.createClaim claim) (some (.ok ())) ∈ opening ++ preparing ++ handling ↔
        .call (.createClaim claim) (some (.ok ())) ∈ opening := by
    rw [List.append_assoc, List.mem_append, or_iff_left]
    intro hMem
    cases changesClaims_eq_false h hReplace hMem
  simp only [hOpening]
  obtain ⟨naming, hNaming, ⟨claim, rfl, hPlan⟩ | ⟨claim, rfl, hPlan⟩⟩ := runs_plan_ok h.planned
  · rw [hPlan.fresh]
    refine ⟨fun ⟨created, hMem⟩ => ?_, fun hFresh => by simp at hFresh⟩
    obtain hMem | hMem := List.mem_append.1 hMem
    · obtain ⟨_, hStep⟩ := hNaming _ hMem
      cases hStep
    · simpa using mem_of_mem_cons_call hMem nofun
  · rw [hPlan.fresh]
    exact ⟨fun _ => rfl, fun _ => ⟨claim, by simp⟩⟩

end Claims

end Launch

end PodWorkspace
