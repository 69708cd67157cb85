import PodWorkspace.Proofs.Manifest.Placement
import PodWorkspace.Proofs.Simulation.Follow
import PodWorkspace.Proofs.Workspace.Launch

/-! Why a pod that was validated can be built. Whether that succeeds, and how it fails, does not
depend on where the pod is placed, so a launch that has its plan builds the pod whatever the cluster
answers before that, and it is the one that was validated but for its placement. -/

namespace PodWorkspace

open Cluster Program

variable {w : Workspace} {l : Launch} {plan : Workspace.Plan} {pod : Pod}
  {steps : List (Step interface)} {ending : Result Unit}

/-- A launch with a plan has validated it. -/
theorem Launch.valid_of_plan (h : Runs (l.plan w) steps (some (.ok plan))) :
    ∃ pod, (w.podOf plan {}).outcome = .ok pod := by
  obtain ⟨-, -, ⟨_, -, hPlan⟩ | ⟨_, -, hPlan⟩⟩ := runs_plan_ok h
  · exact hPlan.valid
  · exact hPlan.valid

/-- The pod of a plan is the one that was validated, placed. -/
theorem Workspace.podOf_placed (hValid : (w.podOf plan {}).outcome = .ok pod)
    (placement : Manifest.Placement) :
    (w.podOf plan placement).outcome = .ok (Manifest.placedPod w.setting placement pod) :=
  Manifest.workspacePod_of_default placement hValid

/-- With a plan that was validated, what the pod depends on cannot be seen to, or the validated pod
is placed and handled. -/
theorem Workspace.runs_applyPod_iff (hValid : (w.podOf plan {}).outcome = .ok pod) :
    Runs (w.applyPod plan) steps ending ↔
      (∃ failure : Option Failure, ending = failure.map .error ∧
        Runs (w.preparePod plan.spec) steps (failure.map .error)) ∨
      ∃ preparing prepared handling, steps = preparing ++ handling ∧
        Runs (w.preparePod plan.spec) preparing (some (.ok prepared)) ∧
        Runs (w.replacePod (Manifest.placedPod w.setting prepared.1 pod) prepared.2) handling
          ending := by
  rw [applyPod, bind_eq_andThen, runs_andThen_iff]
  simp only [bind_eq_andThen, runs_ofLogged_andThen, podOf_placed hValid, resume_ok]

namespace Launch

/-- The ways in which a launch goes. In none of them does it fail to build the pod of its plan. -/
inductive Proceeds (l : Launch) (w : Workspace) : List (Step interface) → Result Unit → Prop
  /-- It comes to no plan. -/
  | unplanned {opening : List (Step interface)} {failure : Option Failure}
      (hPlan : Runs (l.plan w) opening (failure.map .error)) :
      Proceeds l w opening (failure.map .error)
  /-- Its plan was validated, but what the pod depends on cannot be seen to. -/
  | unprepared {opening preparing : List (Step interface)} {plan : Workspace.Plan} {pod : Pod}
      {failure : Option Failure} (hPlan : Runs (l.plan w) opening (some (.ok plan)))
      (hValid : (w.podOf plan {}).outcome = .ok pod)
      (hPrepare : Runs (w.preparePod plan.spec) preparing (failure.map .error)) :
      Proceeds l w (opening ++ preparing) (failure.map .error)
  /-- Its plan was validated, and the pod is built for the placement that comes out. -/
  | built {opening preparing handling : List (Step interface)} {plan : Workspace.Plan}
      {bare pod : Pod} {placement : Manifest.Placement} {detection : List String}
      {ending : Result Unit} (hPlan : Runs (l.plan w) opening (some (.ok plan)))
      (hValid : (w.podOf plan {}).outcome = .ok bare)
      (hPrepare : Runs (w.preparePod plan.spec) preparing (some (.ok (placement, detection))))
      (hBuilt : (w.podOf plan placement).outcome = .ok pod)
      (hHandle : Runs (w.replacePod pod detection) handling ending) :
      Proceeds l w (opening ++ (preparing ++ handling)) ending

theorem runs_program_iff_proceeds :
    Runs (l.program w) steps ending ↔ l.Proceeds w steps ending := by
  rw [program_eq_plan, runs_andThen_iff]
  constructor
  · rintro (⟨failure, rfl, hPlan⟩ | ⟨opening, plan, rest, rfl, hPlan, hApply⟩)
    · exact .unplanned hPlan
    · obtain ⟨bare, hValid⟩ := valid_of_plan hPlan
      obtain ⟨failure, rfl, hPrepare⟩ | ⟨preparing, ⟨placement, detection⟩, handling, rfl, hPrepare,
        hHandle⟩ := (Workspace.runs_applyPod_iff hValid).1 hApply
      · exact .unprepared hPlan hValid hPrepare
      · exact .built hPlan hValid hPrepare (Workspace.podOf_placed hValid placement) hHandle
  · intro h
    cases h with
    | unplanned hPlan => exact .inl ⟨_, rfl, hPlan⟩
    | unprepared hPlan hValid hPrepare =>
      exact .inr ⟨_, _, _, rfl, hPlan,
        (Workspace.runs_applyPod_iff hValid).2 (.inl ⟨_, rfl, hPrepare⟩)⟩
    | @built _ _ _ _ bare pod placement _ _ hPlan hValid hPrepare hBuilt hHandle =>
      have hPlaced := Workspace.podOf_placed hValid placement
      obtain rfl : Manifest.placedPod w.setting placement bare = pod :=
        Except.ok.inj (hPlaced.symm.trans hBuilt)
      exact .inr ⟨_, _, _, rfl, hPlan, (Workspace.runs_applyPod_iff hValid).2
        (.inr ⟨_, (placement, _), _, rfl, hPrepare, hHandle⟩)⟩

/-- Whether the pod of a plan can be built, and how that fails, does not depend on its placement. The
plan of a launch was validated, so its pod can be built for every placement, and no run of the launch
fails at that. -/
theorem proceeds_as_validated (w : Workspace) (l : Launch) :
    (∀ (plan : Workspace.Plan) (placement other : Manifest.Placement),
      (w.podOf plan placement).outcome.map (fun _ => ()) =
        (w.podOf plan other).outcome.map fun _ => ()) ∧
    (∀ (opening : List (Step interface)) (plan : Workspace.Plan),
      Runs (l.plan w) opening (some (.ok plan)) →
        ∀ placement, ∃ pod, (w.podOf plan placement).outcome = .ok pod) ∧
    ∀ (steps : List (Step interface)) (ending : Result Unit),
      Runs (l.program w) steps ending ↔ l.Proceeds w steps ending := by
  refine ⟨fun _ placement other => Manifest.verdict_workspacePod placement other,
    fun opening plan hPlan placement => ?_, fun _ _ => runs_program_iff_proceeds⟩
  obtain ⟨bare, hValid⟩ := valid_of_plan hPlan
  exact ⟨_, Workspace.podOf_placed hValid placement⟩

/-- A new workspace that comes to its plan. -/
def planning : Followed interface Simulation.Store Workspace.Plan :=
  Simulation.Store.follow {} .trusted ((run (some .notes)).plan .notes)

/-- Its pod can be built beside detection pods, with an account and a pull secret. -/
theorem proceeds_as_validated_of_notes :
    Runs ((run (some .notes)).plan .notes) planning.steps (some (.ok ⟨.notes, none, true⟩)) ∧
      ∃ pod, (Workspace.notes.podOf ⟨.notes, none, true⟩ {
        serviceAccount := some "dev"
        pullSecret := some "devpod-pull-secret-notes"
        affinityWorkspace := some "devpod-notes" }).outcome = .ok pod := by
  have hEnding : planning.ending = some (.ok ⟨.notes, none, true⟩) :=
    Followed.ending_of_value (by rfl)
  have hPlan : Runs ((run (some .notes)).plan .notes) planning.steps
      (some (.ok ⟨.notes, none, true⟩)) := hEnding ▸ Simulation.Store.runs_follow _ _ _
  exact ⟨hPlan, (proceeds_as_validated .notes (run (some .notes))).2.1 _ _ hPlan _⟩

end Launch

end PodWorkspace
