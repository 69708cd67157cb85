import PodWorkspace.Proofs.Simulation.Follow
import PodWorkspace.Proofs.Workspace.Handling

/-! The gate before the pod of a workspace is created anew. What a launch does to the pod is settled
by its first look at it: a pod that carries the options is left alone, any other is deleted once and
before a new one is created, and where there is none one is created without a deletion. -/

namespace PodWorkspace

open Cluster Program

/-- The first look at the pod of a workspace. -/
structure FirstLook (w : Workspace) (steps before after : List (Step interface))
    (found : Option Pod) : Prop extends Look w steps before after found where
  first : timesAsked Request.looksAtPod before = 0

/-- What the gate lets through, for what the first look finds. -/
structure Gate (w : Workspace) (steps : List (Step interface)) (found : Option Pod) : Prop where
  /-- A pod that carries the options is neither deleted nor created anew. -/
  current : ∀ existing, found = some existing → existing.Carries w.options.manifest →
    timesAsked Request.createsPod steps = 0 ∧ timesAsked Request.deletesPods steps = 0
  /-- Any other pod is deleted once, and another is created only when that has succeeded. -/
  outdated : ∀ existing, found = some existing → ¬existing.Carries w.options.manifest →
    timesAsked Request.deletesPodAndWaits steps = 1 ∧
      ∀ before pod a after, steps = before ++ .call (.createPod pod) a :: after →
        .call (.deletePodAndWait w.resource w.options.podTimeout) (some (.ok ())) ∈ before
  /-- Where there is no pod one is created, and none is deleted before. -/
  absent : found = none → timesAsked Request.createsPod steps = 1 ∧
    ∀ before pod a after, steps = before ++ .call (.createPod pod) a :: after →
      timesAsked Request.deletesPods before = 0

namespace Workspace

variable {w : Workspace} {lead handling rest : List (Step interface)} {ending : Result Unit}
  {pod existing : Pod} {detection : List String}

theorem timesAsked_aftercare {kind : Request → Bool} (h : ∀ r a, .call r a ∈ rest → w.IsAftercare r)
    (hGet : ∀ name, kind (.getPod name) = false) (hDelete : ∀ name, kind (.deletePod name) = false)
    (hForce : ∀ selector, kind (.forceDeletePods selector) = false) :
    timesAsked kind rest = 0 := by
  rw [timesAsked_eq_zero]
  intro r a hMem
  obtain (rfl | rfl) | rfl := h r a hMem
  · exact hGet _
  · exact hDelete _
  · exact hForce _

theorem gate_current (hLead : IsPreliminary lead) (hCarries : existing.Carries w.options.manifest) :
    Gate w (lead ++ [.call (.getPod w.resource) (some (.ok (some existing)))]) (some existing) where
  current _ _ _ := by
    simp [hLead.timesAsked fun _ => Request.stage_of_createsPod,
      hLead.timesAsked fun _ => Request.stage_of_deletesPods, Request.createsPod,
      Request.deletesPods]
  outdated other hFound hOther := by
    obtain rfl : existing = other := by simpa using hFound
    exact absurd hCarries hOther
  absent hFound := by simp at hFound

theorem gate_undeleted
    {answer : Result (interface.Answer (.deletePodAndWait w.resource w.options.podTimeout))}
    (hLead : IsPreliminary lead)
    (hCarries : ¬existing.Carries w.options.manifest) :
    Gate w (lead ++ [.call (.getPod w.resource) (some (.ok (some existing))),
      .call (.deletePodAndWait w.resource w.options.podTimeout) answer]) (some existing) where
  current other hFound hOther := by
    obtain rfl : existing = other := by simpa using hFound
    exact absurd hOther hCarries
  outdated _ _ _ := by
    have hNew := hLead.timesAsked fun _ => Request.stage_of_createsPod
    have hOld := hLead.timesAsked fun _ => Request.stage_of_deletesPodAndWaits
    refine ⟨by simp [hOld, Request.deletesPodAndWaits], fun before pod a after hSteps => ?_⟩
    have hCount := congrArg (timesAsked Request.createsPod) hSteps
    simp [hNew, Request.createsPod] at hCount
  absent hFound := by simp at hFound

theorem gate_absent (hLead : IsPreliminary lead)
    (hCreate : Runs (w.createPod pod detection) rest ending) :
    Gate w (lead ++ .call (.getPod w.resource) (some (.ok none)) :: rest) none where
  current _ hFound := by simp at hFound
  outdated _ hFound := by simp at hFound
  absent _ := by
    obtain ⟨answer, after, rfl, hAfter⟩ := runs_createPod hCreate
    have hNew := hLead.timesAsked fun _ => Request.stage_of_createsPod
    have hOld := hLead.timesAsked fun _ => Request.stage_of_deletesPods
    have hLater : timesAsked Request.createsPod after = 0 :=
      timesAsked_aftercare hAfter (fun _ => rfl) (fun _ => rfl) (fun _ => rfl)
    refine ⟨by simp [hNew, hLater, Request.createsPod], fun before p a others hSteps => ?_⟩
    rw [List.append_cons] at hSteps
    obtain ⟨rfl, -⟩ := eq_of_only_asked (by simp [hNew, Request.createsPod]) hLater rfl rfl hSteps
    simp [hOld, Request.deletesPods]

theorem gate_replaced (hLead : IsPreliminary lead)
    (hCarries : ¬existing.Carries w.options.manifest)
    (hCreate : Runs (w.createPod pod detection) rest ending) :
    Gate w (lead ++ .call (.getPod w.resource) (some (.ok (some existing))) ::
      .call (.deletePodAndWait w.resource w.options.podTimeout) (some (.ok ())) :: rest)
      (some existing) where
  current other hFound hOther := by
    obtain rfl : existing = other := by simpa using hFound
    exact absurd hOther hCarries
  outdated _ _ _ := by
    obtain ⟨answer, after, rfl, hAfter⟩ := runs_createPod hCreate
    have hNew := hLead.timesAsked fun _ => Request.stage_of_createsPod
    have hOld := hLead.timesAsked fun _ => Request.stage_of_deletesPodAndWaits
    have hLater : timesAsked Request.createsPod after = 0 :=
      timesAsked_aftercare hAfter (fun _ => rfl) (fun _ => rfl) (fun _ => rfl)
    have hKept : timesAsked Request.deletesPodAndWaits after = 0 :=
      timesAsked_aftercare hAfter (fun _ => rfl) (fun _ => rfl) (fun _ => rfl)
    -- There is one creation, so the steps before it are known; the last of them is the deletion.
    refine ⟨by simp [hOld, hKept, Request.deletesPodAndWaits], fun before p a others hSteps => ?_⟩
    rw [List.append_cons, List.append_cons] at hSteps
    obtain ⟨rfl, -⟩ := eq_of_only_asked (by simp [hNew, Request.createsPod]) hLater rfl rfl hSteps
    simp
  absent hFound := by simp at hFound

/-- The gate holds for what the first look finds. -/
theorem gate_of_replaces {before after handling : List (Step interface)} {found : Option Pod}
    (hLead : IsPreliminary lead) (hReplaces : w.Replaces pod detection handling ending)
    (hLook : FirstLook w (lead ++ handling) before after found) :
    Gate w (lead ++ handling) found := by
  have hFirst {answer : Result (Option Pod)} {rest : List (Step interface)}
      (hHandling : handling = .call (.getPod w.resource) answer :: rest) :
      answer = some (.ok found) := by
    subst hHandling
    have hUnseen := hLead.timesAsked fun _ => Request.stage_of_looksAtPod
    obtain ⟨-, hStep, -⟩ := eq_of_first_asked hUnseen hLook.first rfl rfl hLook.steps_eq
    cases hStep
    rfl
  -- Each way to replace the pod begins with a look, and that is the first one.
  cases hReplaces with
  | unseen hAnswer hEnding => exact absurd (hFirst rfl) (hAnswer found)
  | absent hCreate =>
    cases hFirst rfl
    exact gate_absent hLead hCreate
  | current hCarries =>
    cases hFirst rfl
    exact gate_current hLead hCarries
  | undeleted hCarries hAnswer hEnding =>
    cases hFirst rfl
    exact gate_undeleted hLead hCarries
  | replaced hCarries hCreate =>
    cases hFirst rfl
    exact gate_replaced hLead hCarries hCreate

end Workspace

namespace Launch

variable {w : Workspace} {l : Launch} {steps : List (Step interface)} {ending : Result Unit}

theorem gate_of_runs (h : Runs (l.program w) steps ending) {before after : List (Step interface)}
    {found : Option Pod} (hLook : FirstLook w steps before after found) : Gate w steps found := by
  obtain ⟨hNone, -⟩ | ⟨opening, preparing, handling, plan, placement, detection, pod, rfl, hBuilds,
    hReplace⟩ := runs_program h
  · have hUnseen := hNone.timesAsked fun _ => Request.stage_of_looksAtPod
    simp [hLook.steps_eq, Request.looksAtPod] at hUnseen
  · exact Workspace.gate_of_replaces hBuilds.isPreliminary (Workspace.replaces_of_runs hReplace) hLook

/-- The gate of every launch, whatever the cluster answers. Every pod that is created carries the
options, so another launch with the same options leaves it alone when it sees it next. -/
theorem recreation_gate (h : Runs (l.program w) steps ending) :
    (∀ before after found, FirstLook w steps before after found → Gate w steps found) ∧
      ∀ pod a, .call (.createPod pod) a ∈ steps → pod.Carries w.options.manifest ∧
        ∀ (next : Launch) (w' : Workspace) (steps' : List (Step interface)) (ending' : Result Unit)
          (before after : List (Step interface)) (seen : Pod),
          w'.options.manifest = w.options.manifest →
          seen.metadata.annotations = pod.metadata.annotations →
          Runs (next.program w') steps' ending' → FirstLook w' steps' before after (some seen) →
          timesAsked Request.createsPod steps' = 0 ∧ timesAsked Request.deletesPods steps' = 0 := by
  refine ⟨fun before after found => gate_of_runs h, fun pod a hMem => ?_⟩
  obtain ⟨-, -, -, -, -, -, built, -, -, -, rfl⟩ := builds_of_created h hMem
  have hCarries := Workspace.carries_stamped w built
  refine ⟨hCarries, fun next w' steps' ending' before after seen hOptions hSeen hRuns hLook => ?_⟩
  refine (gate_of_runs hRuns hLook).current seen rfl ?_
  obtain ⟨raw, hRaw, hRead⟩ := hCarries
  exact ⟨raw, by rw [← hRaw, ObjectMeta.annotation?, ObjectMeta.annotation?, hSeen], hOptions ▸ hRead⟩

/-- A pod without options is deleted once, and a pod that carries the options takes its place. -/
theorem recreation_gate_of_bare_pod :
    ∃ (steps before after : List (Step interface)) (ending : Result Unit) (existing pod : Pod),
      Runs ((run (some .notes)).program .notes) steps ending ∧
      FirstLook .notes steps before after (some existing) ∧
      ¬existing.Carries Workspace.notes.options.manifest ∧
      timesAsked Request.deletesPodAndWaits steps = 1 ∧
      .call (.createPod pod) (some (.ok ())) ∈ steps ∧
      pod.Carries Workspace.notes.options.manifest := by
  let bare : Simulation.Store :=
    { pods := (∅ : Dict Simulation.StoredPod).insert Workspace.notes.resource ⟨{}, [.up true]⟩ }
  let followed := bare.follow .trusted ((run (some .notes)).program .notes)
  have hRuns : Runs ((run (some .notes)).program .notes) followed.steps followed.ending :=
    bare.runs_follow .trusted _
  have hLook : FirstLook .notes followed.steps (followed.steps.take 8) (followed.steps.drop 9)
      (some (Simulation.withStates {} true true Simulation.isUp)) :=
    ⟨⟨by rfl⟩, by rfl⟩
  have hOther : ¬(Simulation.withStates {} true true Simulation.isUp).Carries
      Workspace.notes.options.manifest := by
    rintro ⟨raw, hRaw, -⟩
    cases hRaw
  obtain ⟨pod, hPod⟩ := Option.isSome_iff_exists.1
    (show (Simulation.firstPod? followed.steps).isSome = true from rfl)
  have hCreated := Simulation.mem_of_firstPod hPod
  obtain ⟨hGate, hCarries⟩ := recreation_gate hRuns
  obtain ⟨hOnce, -⟩ := (hGate _ _ _ hLook).outdated _ rfl hOther
  exact ⟨_, _, _, _, _, pod, hRuns, hLook, hOther, hOnce, hCreated, (hCarries pod _ hCreated).1⟩

end Launch

end PodWorkspace
