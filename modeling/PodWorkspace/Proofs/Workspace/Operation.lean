import PodWorkspace.Proofs.Workspace.Handling
import PodWorkspace.Workspace.Manage

/-! The operations on a workspace that keep its volume claim, and what they do to it. Only a launch
that finds no claim creates one, and none of the operations deletes it. -/

namespace PodWorkspace

open Cluster Program

/-- An operation that keeps the volume claim of a workspace. -/
inductive Operation where
  | launch (l : Launch)
  | stop
  | find
  /-- Finds out the architecture with a detection pod whose name ends in a suffix. -/
  | targetArchitecture (suffix : String)

/-- The program of an operation. -/
def Operation.program (w : Workspace) : Operation → Action Unit
  | launch l => l.program w
  | stop => w.stop
  | find => do let _ ← w.find
  | targetArchitecture suffix => do let _ ← w.targetArchitecture suffix

/-- The specification that the pod of a launch is built from: the one that is given, else that of the
claim. -/
def Launch.spec? (w : Workspace) (l : Launch) (claim : Option VolumeClaim) : Option RunSpec :=
  l.given.or (claim.bind fun c => (w.recordOf c).toOption.map (·.spec))

namespace Launch

variable {w : Workspace} {l : Launch} {plan : Workspace.Plan} {claim : VolumeClaim}
  {steps : List (Step interface)}

theorem spec_of_storedPlan (h : w.StoredPlan l.given claim plan) :
    l.spec? w (some claim) = some plan.spec := by
  obtain ⟨record, hRecord, hSpec⟩ := h.spec
  rw [hSpec, spec?, Option.bind_some, hRecord]
  cases l.given <;> rfl

theorem spec_of_freshPlan (h : w.FreshPlan l.given claim plan) (found : Option VolumeClaim) :
    l.spec? w found = some plan.spec := by
  rw [spec?, h.given]
  rfl

/-- A plan changes claims only when there is none. -/
theorem notFound_of_plan {ending : Result Workspace.Plan} (h : Runs (l.plan w) steps ending)
    {r : Request} {a : Result r.Answer} (hMem : .call r a ∈ steps)
    (hChanges : r.changesClaims = true) :
    .call (.getClaim w.resource) (some (.ok none)) ∈ steps := by
  obtain ⟨naming, rest, rfl, hNaming, hPlans⟩ := plans_of_runs h
  rw [List.mem_append] at hMem ⊢
  refine .inr ?_
  obtain hMem | hMem := hMem
  · obtain ⟨_, hStep⟩ := hNaming _ hMem
    cases hStep
    cases hChanges
  · cases hPlans with
    | unusable | stored =>
      cases List.mem_singleton.1 hMem
      cases hChanges
    | refused | fresh => exact List.mem_cons_self

/-- A launch changes claims only when there is none. -/
theorem notFound_of_program {ending : Result Unit} (h : Runs (l.program w) steps ending)
    {r : Request} {a : Result r.Answer} (hMem : .call r a ∈ steps)
    (hChanges : r.changesClaims = true) :
    .call (.getClaim w.resource) (some (.ok none)) ∈ steps := by
  rw [program_eq_plan] at h
  obtain ⟨opening, plan, rest, rfl, hPlan, hApply⟩ := runs_andThen.1 h
  rw [List.mem_append] at hMem ⊢
  obtain hMem | hMem := hMem
  · exact .inl (notFound_of_plan hPlan hMem hChanges)
  · rcases plan with _ | (f | plan)
    · rw [(runs_cutOff.1 hApply).1] at hMem
      simp at hMem
    · rw [(runs_fail.1 hApply).1] at hMem
      simp at hMem
    -- What comes after the plan belongs to later stages, in which no claim is changed.
    · have hStage := Request.stage_of_changesClaims hChanges
      rcases Workspace.asksOnly_applyPod plan hApply r a hMem with h | h <;> simp [h] at hStage

end Launch

namespace Workspace

variable {w : Workspace}

theorem asksOnly_runningPod : AsksOnly (Readiness.IsAbout w.resource) w.runningPod := by
  refine Readiness.asksOnly_wait.attempt.andThen fun outcome => ?_
  rcases outcome with f | pod | pod | _
  · dsimp only
    split
    · exact asksOnly_fail f
    · exact (asksOnly_tell _ _ _).andThen fun _ => (asksOnly_note _).andThen fun _ =>
        asksOnly_done _
  · exact asksOnly_done _
  · exact asksOnly_done _
  · exact asksOnly_done _

theorem asksOnly_find :
    AsksOnly (fun r : Request => r = .getClaim w.resource ∨ Readiness.IsAbout w.resource r)
      w.find := by
  refine (inquires_findClaim.asksOnly.mono fun _ => .inl).andThen fun found => ?_
  rcases found with _ | ⟨claim, record⟩
  · exact asksOnly_done _
  · exact (asksOnly_runningPod.mono fun _ => .inr).andThen fun _ => asksOnly_done _

theorem asksOnly_stop : AsksOnly (fun r : Request => r = .deletePod w.resource) w.stop :=
  (asksOnly_tell _ _ _).andThen fun _ => asksOnly_request rfl

/-- What may be asked to find out the architecture, with a detection pod whose name ends in a
suffix. -/
inductive IsDetection (w : Workspace) (suffix : String) : Request → Prop
  | name : IsDetection w suffix (.createNamespace w.namespace)
  | create {template : Option Pod} (hTemplate : w.detectionTemplate = .ok template) :
      IsDetection w suffix (.createPod
        (Manifest.detectionPod w.setting w.name (w.name.archPod suffix) template))
  | wait {r : Request} (hAbout : Readiness.IsAbout (w.name.archPod suffix) r) :
      IsDetection w suffix r
  | read : IsDetection w suffix (.podLogs (w.name.archPod suffix) Manifest.devContainerName)

theorem asksOnly_targetArchitecture (suffix : String) :
    AsksOnly (w.IsDetection suffix) (w.targetArchitecture suffix) := by
  have hName : AsksOnly (w.IsDetection suffix) w.ensureNamespace := by
    intro steps ending hRun r a hMem
    obtain ⟨_, hStep⟩ := (runs_ensureNamespace hRun).2 _ hMem
    cases hStep
    exact .name
  refine hName.andThen fun _ => asksOnly_ofExcept_andThen fun template hTemplate => ?_
  refine (asksOnly_tell _ _ _).andThen fun _ =>
    (asksOnly_request (.create hTemplate)).andThen fun _ =>
      (Readiness.asksOnly_wait.mono fun _ => .wait).andThen fun ending => ?_
  split
  · exact (asksOnly_request .read).andThen fun _ => (asksOnly_tell _ _ _).andThen fun _ =>
      asksOnly_done _
  · exact asksOnly_fail _

end Workspace

namespace Operation

variable {w : Workspace} {op : Operation}

/-- What keeps claims as they are. -/
def KeepsClaims (r : Request) : Prop := r.changesClaims = false

theorem keepsClaims_of_isAbout {name : String} {r : Request} (h : Readiness.IsAbout name r) :
    KeepsClaims r := by
  obtain rfl | rfl := h <;> rfl

/-- All operations but launches keep claims as they are. -/
theorem asksOnly_keepsClaims (hOp : ∀ l, op ≠ .launch l) : AsksOnly KeepsClaims (op.program w) := by
  cases op with
  | launch l => exact absurd rfl (hOp l)
  | stop => exact Workspace.asksOnly_stop.mono fun _ h => h ▸ rfl
  | find =>
    refine (Workspace.asksOnly_find.andThen fun _ => asksOnly_done _).mono fun r h => ?_
    obtain rfl | hAbout := h
    · rfl
    · exact keepsClaims_of_isAbout hAbout
  | targetArchitecture suffix =>
    refine ((Workspace.asksOnly_targetArchitecture suffix).andThen fun _ => asksOnly_done _).mono
      fun r h => ?_
    cases h with
    | name | create | read => rfl
    | wait hAbout => exact keepsClaims_of_isAbout hAbout

/-- An operation changes claims only when there is none. -/
theorem notFound_of_program {steps : List (Step interface)} {ending : Result Unit}
    (h : Runs (op.program w) steps ending) {r : Request} {a : Result r.Answer}
    (hMem : .call r a ∈ steps) (hChanges : r.changesClaims = true) :
    .call (.getClaim w.resource) (some (.ok none)) ∈ steps := by
  by_cases hLaunch : ∃ l, op = .launch l
  · obtain ⟨l, rfl⟩ := hLaunch
    exact l.notFound_of_program h hMem hChanges
  · have hKeeps : r.changesClaims = false :=
      asksOnly_keepsClaims (fun l hOp => hLaunch ⟨l, hOp⟩) h r a hMem
    simp [hKeeps] at hChanges

end Operation

end PodWorkspace
