import PodWorkspace.Proofs.CommandLine.Command
import PodWorkspace.Proofs.Manifest.Labels
import PodWorkspace.Proofs.Simulation.Deletion
import PodWorkspace.Proofs.Workspace.Operation

/-! The marker on the objects that are created. Whatever labels and templates the user gives, a task
marks each object that it creates, but for one kind: a detection pod is marked only when its template
marks it. -/

namespace PodWorkspace

open Cluster Program

namespace Cluster.Request

variable {r : Request} {pod : Pod}

/-- Whether the object that a request creates, if it creates one, carries the marker. -/
def IsMarked (r : Request) : Prop :=
  ∀ created, r.createdMeta? = some created → created.label? createdLabel = some "true"

theorem isMarked_of_none (h : r.createdMeta? = none) : r.IsMarked := by
  intro created hCreated
  rw [h] at hCreated
  cases hCreated

theorem isMarked_iff_of_some {created : ObjectMeta} (h : r.createdMeta? = some created) :
    r.IsMarked ↔ created.label? createdLabel = some "true" := by
  simp [IsMarked, h]

theorem isMarked_of_createdMeta {name «namespace» : String}
    (h : r.createdMeta? = some (Manifest.createdMeta name «namespace»)) : r.IsMarked :=
  (isMarked_iff_of_some h).2 (Manifest.label?_createdMeta name «namespace»)

theorem isMarked_of_isAbout {name : String} (h : Readiness.IsAbout name r) : r.IsMarked := by
  obtain rfl | rfl := h <;> exact isMarked_of_none rfl

end Cluster.Request

namespace Workspace

open Request

variable {w : Workspace} {r : Request}

/-! ### Launches -/

theorem isMarked_of_isPreparation (h : w.IsPreparation r) : r.IsMarked := by
  obtain hAccess | hSecret | rfl := h
  · cases hAccess with
    | getAccount | getBinding => exact isMarked_of_none rfl
    | createAccount | createBinding => exact isMarked_of_createdMeta rfl
  · cases hSecret with
    | lookUp | get | delete => exact isMarked_of_none rfl
    | create => exact isMarked_of_createdMeta rfl
  · exact isMarked_of_none rfl

theorem isMarked_of_isReplacement {pod : Pod}
    (hPod : pod.metadata.label? createdLabel = some "true") (h : w.IsReplacement pod r) :
    r.IsMarked := by
  obtain (hAbout | rfl) | rfl | rfl := h
  · exact isMarked_of_isAbout hAbout
  · exact isMarked_of_none rfl
  · exact isMarked_of_none rfl
  · rw [isMarked_iff_of_some rfl]
    exact hPod

theorem marksCreated_applyPod (plan : Plan) : AsksOnly IsMarked (w.applyPod plan) := by
  have hPrepare := (inquires_preparePod (w := w) plan.spec).asksOnly
  refine (hPrepare.mono fun _ => isMarked_of_isPreparation).andThen fun prepared => ?_
  refine asksOnly_ofLogged_andThen fun pod hPod => ?_
  have hLabel : pod.metadata.label? createdLabel = some "true" := by
    rw [Manifest.label?_workspacePod hPod]
    rfl
  exact asksOnly_replacePod.mono fun _ => isMarked_of_isReplacement hLabel

end Workspace

namespace Launch

variable {w : Workspace} {l : Launch}

theorem marksCreated_plan (l : Launch) : AsksOnly Request.IsMarked (l.plan w) := by
  intro steps ending hRun r a hMem
  obtain ⟨naming, rest, rfl, hNaming, hPlans⟩ := plans_of_runs hRun
  obtain hMem | hMem := List.mem_append.1 hMem
  · obtain ⟨_, hStep⟩ := hNaming _ hMem
    cases hStep
    exact Request.isMarked_of_none rfl
  · cases hPlans with
    | unusable | stored | refused =>
      cases List.mem_singleton.1 hMem
      exact Request.isMarked_of_none rfl
    | @fresh claim plan answer hPlan =>
      obtain hHead | hMem := List.mem_cons.1 hMem
      · cases hHead
        exact Request.isMarked_of_none rfl
      · cases List.mem_singleton.1 hMem
        rw [Request.isMarked_iff_of_some rfl, Manifest.label?_workspaceClaim hPlan.claim]
        rfl

theorem marksCreated_program (l : Launch) : AsksOnly Request.IsMarked (l.program w) := by
  rw [program_eq_plan]
  exact l.marksCreated_plan.andThen Workspace.marksCreated_applyPod

end Launch

/-! ### All tasks -/

/-- Whether the template of the detection pod carries the marker. -/
def Workspace.MarksDetection (w : Workspace) : Prop :=
  ∃ template, w.detectionTemplate = .ok (some template) ∧
    template.metadata.label? createdLabel = some "true"

namespace Workspace

open Request

variable {w : Workspace} {r : Request}

theorem isMarked_detectionPod {name : String} {template : Option Pod}
    (hTemplate : w.detectionTemplate = .ok template) :
    (Request.createPod (Manifest.detectionPod w.setting w.name name template)).IsMarked ↔
      w.MarksDetection := by
  have hOther : createdLabel ≠ workspaceLabel := by decide
  rw [isMarked_iff_of_some rfl, Manifest.label?_detectionPod, if_neg hOther, MarksDetection,
    hTemplate]
  cases template <;> simp

theorem isMarked_iff_of_isDetection {suffix : String} (h : w.IsDetection suffix r) :
    r.IsMarked ↔ (r.createsPod = true → w.MarksDetection) := by
  cases h with
  | name | read => exact iff_of_true (isMarked_of_none rfl) nofun
  | wait hAbout =>
    refine iff_of_true (isMarked_of_isAbout hAbout) fun hCreates => ?_
    obtain rfl | rfl := hAbout <;> cases hCreates
  | create hTemplate => simp [isMarked_detectionPod hTemplate, Request.createsPod]

theorem isMarked_of_disposes (h : w.Disposes r) : r.IsMarked := by
  cases r <;> first | exact isMarked_of_none rfl | exact h.elim

end Workspace

namespace CommandLine.Task

open Request

variable {t : Task} {m : Machine} {w : Workspace} {steps : List (Step interface)}
  {ending : Result Output} {r : Request} {a : Result r.Answer}

theorem marksCreated_perform (hOther : t ≠ .targetArchitecture) :
    AsksOnly IsMarked (t.perform m w) := by
  cases t with
  | run spec => exact (Launch.run spec).marksCreated_program.andThen fun _ => asksOnly_done _
  | start => exact Launch.start.marksCreated_program.andThen fun _ => asksOnly_done _
  | stop =>
    exact (Workspace.asksOnly_stop.mono fun _ h => h ▸ isMarked_of_none rfl).andThen fun _ =>
      asksOnly_done _
  | delete =>
    exact (Workspace.asksOnly_delete.mono fun _ => Workspace.isMarked_of_disposes).andThen fun _ =>
      asksOnly_done _
  | find =>
    refine (Workspace.asksOnly_find.mono fun r h => ?_).andThen fun found => ?_
    · obtain rfl | hAbout := h
      · exact isMarked_of_none rfl
      · exact isMarked_of_isAbout hAbout
    · cases found <;> exact asksOnly_done _
  | command user text =>
    have hCommand : AsksOnly IsMarked (w.command user text m.stdin) :=
      (Workspace.asksOnly_tell _ _ _).andThen fun _ =>
        Workspace.asksOnly_request (isMarked_of_none rfl)
    exact hCommand.andThen fun _ => asksOnly_done _
  | logs =>
    have hLogs : AsksOnly IsMarked w.logs := Workspace.asksOnly_request (isMarked_of_none rfl)
    exact hLogs.andThen fun _ => asksOnly_done _
  | targetArchitecture => exact absurd rfl hOther

/-- Each object that a task creates is marked, unless it is a detection pod without a marked template. -/
theorem isMarked_iff_of_perform (hRun : Runs (t.perform m w) steps ending)
    (hMem : .call r a ∈ steps) :
    r.IsMarked ↔ (t = .targetArchitecture → r.createsPod = true → w.MarksDetection) := by
  by_cases hTask : t = .targetArchitecture
  · subst hTask
    have hDetection : w.IsDetection m.suffix r :=
      ((w.asksOnly_targetArchitecture m.suffix).andThen fun _ => asksOnly_done _) hRun r a hMem
    rw [Workspace.isMarked_iff_of_isDetection hDetection]
    simp
  · exact iff_of_true (marksCreated_perform hTask hRun r a hMem) fun h => absurd h hTask

/-- A task in a cluster without objects. -/
def firstTask (t : Task) : Followed interface Simulation.Store Output :=
  Simulation.Store.follow {} .trusted (t.perform .connected .notes)

theorem isMarked_iff_of_perform_of_run :
    ∃ pod, .call (.createPod pod) (some (.ok ())) ∈ (firstTask (.run (some .notes))).steps ∧
      (Request.createPod pod).IsMarked := by
  obtain ⟨pod, hPod⟩ := Option.isSome_iff_exists.1
    (show (Simulation.firstPod? (firstTask (.run (some .notes))).steps).isSome = true by
      decide +kernel)
  have hMem := Simulation.mem_of_firstPod hPod
  have hRun := Simulation.Store.runs_follow {} .trusted
    (Task.perform (.run (some .notes)) .connected .notes)
  exact ⟨pod, hMem, (isMarked_iff_of_perform hRun hMem).2 nofun⟩

/-- The pod that tells the architecture is created without the marker. -/
theorem leaves_detection_unmarked :
    ∃ pod, Runs (Task.targetArchitecture.perform .connected .notes)
        (firstTask .targetArchitecture).steps (firstTask .targetArchitecture).ending ∧
      .call (.createPod pod) (some (.ok ())) ∈ (firstTask .targetArchitecture).steps ∧
      ¬(Request.createPod pod).IsMarked := by
  obtain ⟨pod, hPod, hLabel⟩ := (Option.any_eq_true _ _).1
    (show (Simulation.firstPod? (firstTask .targetArchitecture).steps).any
      (fun pod => pod.metadata.label? createdLabel != some "true") = true by decide +kernel)
  refine ⟨pod, Simulation.Store.runs_follow _ _ _, Simulation.mem_of_firstPod hPod, ?_⟩
  rw [isMarked_iff_of_some rfl]
  simpa using hLabel

end CommandLine.Task

end PodWorkspace
