import PodWorkspace.Proofs.Simulation.Follow
import PodWorkspace.Proofs.Workspace.Operation

/-! The record of a workspace in a simulated cluster. The launch that creates the volume claim
stores the specification that it was given, and no operation changes the claim once it is there. -/

namespace PodWorkspace

open Cluster Program Simulation

/-- Whether a store has the volume claim of a workspace, with a specification on record. -/
def Simulation.Store.Records (s : Store) (w : Workspace) (spec : RunSpec) : Prop :=
  ∃ claim, s.claims.get? w.resource = some claim ∧ w.recordOf claim = .ok ⟨w.name.id, spec⟩

namespace Launch

variable {w : Workspace} {l : Launch} {steps : List (Step interface)} {around : Surroundings}
  {s s' : Store}

/-- A fresh plan goes on record. -/
theorem records_of_plan {plan : Workspace.Plan} (h : Runs (l.plan w) steps (some (.ok plan)))
    (hFresh : plan.fresh = true) (hServes : Serves around s steps s') : s'.Records w plan.spec := by
  obtain ⟨naming, hNaming, ⟨claim, rfl, hPlan⟩ | ⟨claim, rfl, hPlan⟩⟩ := runs_plan_ok h
  · simp [hPlan.fresh] at hFresh
  · rw [List.append_cons] at hServes
    obtain ⟨between, -, hCreate⟩ := hServes.split
    have hName : claim.name = w.resource := (Manifest.workspaceClaim_ok hPlan.claim).1
    cases hCreate with
    | call hRest =>
      cases hRest
      obtain ⟨stored, hStored, hSame⟩ := Store.get?_createClaim around between claim
      rw [hName] at hStored
      exact ⟨stored, hStored, Workspace.recordOf_workspaceClaim hPlan.claim hSame⟩

end Launch

namespace Operation

variable {w : Workspace} {op : Operation} {steps : List (Step interface)} {ending : Result Unit}
  {around : Surroundings} {s s' : Store} {spec : RunSpec}

/-- No operation deletes a claim. -/
theorem asksOnly_program : AsksOnly (fun r : Request => ∀ name, r ≠ .deleteClaim name)
    (op.program w) := by
  by_cases hLaunch : ∃ l, op = .launch l
  · obtain ⟨l, rfl⟩ := hLaunch
    rw [program, Launch.program_eq_plan]
    refine (l.staysIn_plan.mono fun r hStage name => ?_).andThen fun plan =>
      (Workspace.asksOnly_applyPod plan).mono fun r hStage name => ?_
    · rintro rfl
      cases hStage
    · rintro rfl
      rcases hStage with hStage | hStage <;> cases hStage
  · refine (asksOnly_keepsClaims fun l hOp => hLaunch ⟨l, hOp⟩).mono fun r hKeeps name => ?_
    rintro rfl
    cases hKeeps

/-- An operation on a workspace whose claim is there leaves all claims as they are. -/
theorem claims_eq (h : Runs (op.program w) steps ending) (hServes : Serves around s steps s')
    (hClaim : (s.claims.get? w.resource).isSome = true) : s'.claims = s.claims := by
  refine hServes.claims_eq fun r a hMem => ?_
  rw [Bool.eq_false_iff]
  intro hChanges
  -- Claims are changed only after a look that finds none, and that look would have found this one.
  obtain ⟨between, hBetween, hAnswer⟩ := hServes.answered
    (P := fun t => (t.claims.get? w.resource).isSome = true) hClaim
    (fun t r a hMem => Store.isSome_claim_answer (asksOnly_program h r a hMem))
    (notFound_of_program h hMem hChanges)
  have hNone : between.claims.get? w.resource = none :=
    (Except.ok.inj (Option.some.inj hAnswer)).symm
  simp [hNone] at hBetween

theorem records_of_runs (h : Runs (op.program w) steps ending) (hServes : Serves around s steps s')
    (hRecords : s.Records w spec) : s'.Records w spec := by
  obtain ⟨claim, hClaim, hRecord⟩ := hRecords
  refine ⟨claim, ?_, hRecord⟩
  rw [claims_eq h hServes (by simp [hClaim])]
  exact hClaim

end Operation

/-- Operations performed one after another in a cluster that answers every call. The world around
them may be another each time. -/
inductive Performs (w : Workspace) : Store → List Operation → Store → Prop
  | nil (s : Store) : Performs w s [] s
  | cons {op : Operation} {later : List Operation} {around : Surroundings}
      {steps : List (Step interface)} {ending : Result Unit} {s between s' : Store}
      (hRuns : Runs (op.program w) steps ending) (hServes : Serves around s steps between)
      (hLater : Performs w between later s') : Performs w s (op :: later) s'

/-- What is on record stays on record. -/
theorem Performs.records {w : Workspace} {s s' : Store} {operations : List Operation} {spec : RunSpec}
    (h : Performs w s operations s') (hRecords : s.Records w spec) : s'.Records w spec := by
  induction h with
  | nil => exact hRecords
  | cons hRuns hServes hLater ih => exact ih (Operation.records_of_runs hRuns hServes hRecords)

/-- The store after some operations in one world. -/
def Simulation.Store.perform (w : Workspace) (around : Surroundings) (s : Store) :
    List Operation → Store
  | [] => s
  | op :: later => (s.follow around (op.program w)).state.perform w around later

theorem performs_perform (w : Workspace) (around : Surroundings) (operations : List Operation)
    (s : Store) :
    Performs w s operations (s.perform w around operations) := by
  induction operations generalizing s with
  | nil => exact .nil s
  | cons op later ih => exact .cons (s.runs_follow around _) (s.serves_follow around _) (ih _)

end PodWorkspace
