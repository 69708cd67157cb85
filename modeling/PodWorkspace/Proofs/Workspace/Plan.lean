import PodWorkspace.Proofs.Manifest.Refusal
import PodWorkspace.Proofs.Workspace.Persistence
import PodWorkspace.Proofs.Workspace.Stage

/-! How a launch comes to its plan: it looks for the volume claim of the workspace, goes on with what
that says, or creates it. Whatever may be wrong with the input is found before that, so a plan fails
without a change unless the creation itself does. -/

namespace PodWorkspace

open Cluster Program

namespace Workspace

variable {w : Workspace} {steps : List (Step interface)}

/-- What the template option says: no template, the template, or why it cannot be had. -/
def template (w : Workspace) : Except Failure (Option Pod) :=
  w.options.manifest.podManifestTemplate.mapM (Manifest.loadTemplate w.files "POD_MANIFEST_TEMPLATE")

theorem runs_podTemplate {ending : Result (Option Pod)} :
    Runs w.podTemplate steps ending ↔ steps = [] ∧ ending = some w.template := by
  unfold podTemplate template
  cases hPath : w.options.manifest.podManifestTemplate with
  | none => exact runs_done
  | some path =>
    simp only [bind_eq_andThen, note_andThen, runs_log, runs_ofExcept_andThen]
    cases hLoad : Manifest.loadTemplate w.files "POD_MANIFEST_TEMPLATE" path <;>
      simp [hLoad, Functor.map, Except.map]

theorem blamesOptions_template : Manifest.BlamesOptions w.template :=
  Manifest.blamesOptions_mapM (Manifest.blamesOptions_loadTemplate _ _)

theorem runs_validatePod {plan : Plan} {ending : Result Unit} :
    Runs (w.validatePod plan) steps ending ↔
      steps = [] ∧ ending = some ((w.podOf plan {}).outcome.map fun _ => ()) := by
  simp only [validatePod, bind_eq_andThen, pure_eq_done, runs_ofLogged_andThen]
  cases hPod : (w.podOf plan {}).outcome <;> simp [Except.map]

/-- Steps that ask for nothing but the namespace. -/
def OnlyNames (w : Workspace) (steps : List (Step interface)) : Prop :=
  ∀ step ∈ steps, ∃ a, step = .call (.createNamespace w.namespace) a

theorem onlyNames_nil : w.OnlyNames [] := by
  intro step hMem
  cases hMem

theorem OnlyNames.timesAsked {kind : Request → Bool} (h : w.OnlyNames steps)
    (hKind : ∀ name, kind (.createNamespace name) = false) : timesAsked kind steps = 0 := by
  rw [timesAsked_eq_zero]
  intro r a hMem
  obtain ⟨_, hStep⟩ := h _ hMem
  cases hStep
  exact hKind _

/-- Only the question for the namespace comes before the question for the claim, and it does not
matter how it is answered. -/
theorem runs_ensureNamespace {ending : Result Unit} (h : Runs w.ensureNamespace steps ending) :
    ending = some (.ok ()) ∧ w.OnlyNames steps := by
  unfold ensureNamespace at h
  split at h
  · obtain ⟨rfl, rfl⟩ := runs_done.1 h
    exact ⟨rfl, onlyNames_nil⟩
  · simp only [bind_eq_andThen, note_andThen, runs_log] at h
    obtain ⟨before, r, after, rfl, hAttempt, hRest⟩ := runs_andThen.1 h
    obtain ⟨outcome, rfl, hAsk⟩ := runs_attempt.1 hAttempt
    obtain ⟨answer, rfl, rfl⟩ := runs_request.1 hAsk
    cases hAnswer : answer.getD (.error (.cancelled "create namespace")) <;>
      simp_all [OnlyNames]

/-- The ways in which the claim of a workspace is looked for. -/
inductive Finds (w : Workspace) : List (Step interface) →
    Result (Option (VolumeClaim × WorkspaceRecord)) → Prop
  /-- The claim cannot be had, or its record cannot be read. -/
  | unusable {answer : Result (Option VolumeClaim)} {f : Failure}
      (hAnswer : answer ≠ some (.ok none)) :
      Finds w [.call (.getClaim w.resource) answer] (some (.error f))
  /-- There is no claim. -/
  | absent : Finds w [.call (.getClaim w.resource) (some (.ok none))] (some (.ok none))
  /-- There is a claim with a record that can be read. -/
  | found {claim : VolumeClaim} {record : WorkspaceRecord} (hRecord : w.recordOf claim = .ok record) :
      Finds w [.call (.getClaim w.resource) (some (.ok (some claim)))]
        (some (.ok (some (claim, record))))

theorem finds_of_runs {ending : Result (Option (VolumeClaim × WorkspaceRecord))}
    (h : Runs w.findClaim steps ending) : w.Finds steps ending := by
  obtain ⟨answer, rest, rfl, hRest⟩ := runs_request_andThen.1 h
  rcases answer with _ | (f | _ | claim)
  · obtain ⟨rfl, rfl⟩ := runs_fail.1 hRest
    exact .unusable nofun
  · obtain ⟨rfl, rfl⟩ := runs_fail.1 hRest
    exact .unusable nofun
  · obtain ⟨rfl, rfl⟩ := runs_done.1 hRest
    exact .absent
  · replace hRest := runs_ofExcept_andThen.1 hRest
    cases hRecord : w.recordOf claim with
    | error f =>
      rw [hRecord] at hRest
      obtain ⟨rfl, rfl⟩ := runs_fail.1 hRest
      exact .unusable nofun
    | ok record =>
      rw [hRecord] at hRest
      obtain ⟨rfl, rfl⟩ := runs_done.1 hRest
      exact .found hRecord

/-- A plan for a workspace whose volume claim is there. -/
structure StoredPlan (w : Workspace) (given : Option RunSpec) (claim : VolumeClaim)
    (plan : Plan) : Prop where
  spec : ∃ record, w.recordOf claim = .ok record ∧ plan.spec = given.getD record.spec
  template : w.template = .ok plan.template
  fresh : plan.fresh = false
  valid : ∃ pod, (w.podOf plan {}).outcome = .ok pod

/-- A plan for a new workspace, for which a volume claim is created. -/
structure FreshPlan (w : Workspace) (given : Option RunSpec) (claim : VolumeClaim)
    (plan : Plan) : Prop where
  given : given = some plan.spec
  claim : (Manifest.workspaceClaim w.setting w.name ⟨w.name.id, plan.spec⟩).outcome = .ok claim
  template : w.template = .ok plan.template
  fresh : plan.fresh = true
  valid : ∃ pod, (w.podOf plan {}).outcome = .ok pod

/-- A plan for a workspace whose claim is there asks nothing more. -/
theorem runs_storedPlan {given : Option RunSpec} {claim : VolumeClaim} {record : WorkspaceRecord}
    {ending : Result Plan} (hRecord : w.recordOf claim = .ok record)
    (h : Runs (w.storedPlan given record) steps ending) :
    steps = [] ∧ ((∃ f, ending = some (.error f)) ∨
      ∃ plan, ending = some (.ok plan) ∧ w.StoredPlan given claim plan) := by
  simp only [storedPlan, bind_eq_andThen, pure_eq_done] at h
  rw [runs_silent_andThen fun _ _ => runs_podTemplate] at h
  rcases hTemplate : w.template with f | template
  · rw [hTemplate] at h
    exact ⟨(runs_fail.1 h).1, .inl ⟨f, (runs_fail.1 h).2⟩⟩
  rw [hTemplate, resume_ok, runs_silent_andThen fun _ _ => runs_validatePod] at h
  rcases hPod : (w.podOf ⟨given.getD record.spec, template, false⟩ {}).outcome with f | pod
  · rw [hPod] at h
    exact ⟨(runs_fail.1 h).1, .inl ⟨f, (runs_fail.1 h).2⟩⟩
  rw [hPod, Except.map, resume_ok] at h
  obtain ⟨rfl, rfl⟩ := runs_done.1 h
  exact ⟨rfl, .inr ⟨_, rfl, ⟨record, hRecord, rfl⟩, hTemplate, rfl, pod, hPod⟩⟩

/-- A plan for a new workspace is refused because of an option, or the claim is created for it. -/
theorem runs_freshPlan {spec : RunSpec} {ending : Result Plan}
    (h : Runs (w.freshPlan spec) steps ending) :
    (steps = [] ∧ ∃ f, ending = some (.error f) ∧ f.isConfiguration = true) ∨
      ∃ (claim : VolumeClaim) (plan : Plan) (answer : Result Unit),
        steps = [.call (.createClaim claim) answer] ∧ w.FreshPlan (some spec) claim plan ∧
        ending = some ((answer.getD (.error (.cancelled "create pvc"))).map fun _ => plan) := by
  simp only [freshPlan, bind_eq_andThen, pure_eq_done, runs_ofLogged_andThen] at h
  rcases hClaim : (Manifest.workspaceClaim w.setting w.name ⟨w.name.id, spec⟩).outcome with f | claim
  · rw [hClaim] at h
    obtain ⟨rfl, rfl⟩ := runs_fail.1 h
    exact .inl ⟨rfl, f, rfl, Manifest.blamesOptions_workspaceClaim _ f hClaim⟩
  rw [hClaim, resume_ok, runs_silent_andThen fun _ _ => runs_podTemplate] at h
  rcases hTemplate : w.template with f | template
  · rw [hTemplate] at h
    obtain ⟨rfl, rfl⟩ := runs_fail.1 h
    exact .inl ⟨rfl, f, rfl, blamesOptions_template f hTemplate⟩
  rw [hTemplate, resume_ok, runs_silent_andThen fun _ _ => runs_validatePod] at h
  rcases hPod : (w.podOf ⟨spec, template, true⟩ {}).outcome with f | pod
  · rw [hPod] at h
    obtain ⟨rfl, rfl⟩ := runs_fail.1 h
    exact .inl ⟨rfl, f, rfl, Manifest.blamesOptions_workspacePod f hPod⟩
  rw [hPod, Except.map, resume_ok, tell_andThen, runs_log] at h
  obtain ⟨answer, rest, rfl, hRest⟩ := runs_request_andThen.1 h
  refine .inr ⟨claim, ⟨spec, template, true⟩, answer, ?_⟩
  have hFresh : w.FreshPlan (some spec) claim ⟨spec, template, true⟩ :=
    ⟨rfl, hClaim, hTemplate, rfl, pod, hPod⟩
  rcases answer with _ | (f | _)
  · obtain ⟨rfl, rfl⟩ := runs_fail.1 hRest
    exact ⟨rfl, hFresh, rfl⟩
  · obtain ⟨rfl, rfl⟩ := runs_fail.1 hRest
    exact ⟨rfl, hFresh, rfl⟩
  · obtain ⟨rfl, rfl⟩ := runs_done.1 hRest
    exact ⟨rfl, hFresh, rfl⟩

end Workspace

/-- The operations that bring a workspace up. -/
inductive Launch where
  /-- Creates the workspace, if it is new, and starts it. -/
  | run (given : Option RunSpec)
  /-- Starts the workspace as it is stored. -/
  | start

namespace Launch

variable {w : Workspace} {l : Launch} {steps : List (Step interface)}

/-- The specification that is given. -/
def given : Launch → Option RunSpec
  | run given => given
  | start => none

/-- How the plan is found. -/
def plan (w : Workspace) : Launch → Action Workspace.Plan
  | run given => w.runPlan given
  | start => w.startPlan

/-- Whether a failure says that there is no workspace to go on with, or blames an option. -/
def Refuses (f : Failure) : Prop :=
  f.isConfiguration = true ∨ (∃ name, f = .workspaceNotFound name) ∨
    ∃ name, f = .missingSpecification name

/-- The ways in which a launch comes to its plan, once the namespace is seen to. -/
inductive Plans (l : Launch) (w : Workspace) :
    List (Step interface) → Result Workspace.Plan → Prop
  /-- The claim cannot be had, or what it says cannot be used. -/
  | unusable {answer : Result (Option VolumeClaim)} {f : Failure}
      (hAnswer : answer ≠ some (.ok none)) :
      Plans l w [.call (.getClaim w.resource) answer] (some (.error f))
  /-- The workspace is there, and its claim says what it is. -/
  | stored {claim : VolumeClaim} {plan : Workspace.Plan} (hPlan : w.StoredPlan l.given claim plan) :
      Plans l w [.call (.getClaim w.resource) (some (.ok (some claim)))] (some (.ok plan))
  /-- The workspace is not there, and cannot be created. -/
  | refused {f : Failure} (hRefuses : Refuses f) :
      Plans l w [.call (.getClaim w.resource) (some (.ok none))] (some (.error f))
  /-- The workspace is new, and its claim is created, if the cluster can. -/
  | fresh {claim : VolumeClaim} {plan : Workspace.Plan} {answer : Result Unit}
      (hPlan : w.FreshPlan l.given claim plan) :
      Plans l w [.call (.getClaim w.resource) (some (.ok none)), .call (.createClaim claim) answer]
        (some ((answer.getD (.error (.cancelled "create pvc"))).map fun _ => plan))

/-- A launch that knows what is given goes on with what it has found. -/
theorem plans_of_found {next : Option (VolumeClaim × WorkspaceRecord) → Action Workspace.Plan}
    {ending : Result Workspace.Plan} (h : Runs (andThen next w.findClaim) steps ending)
    (hStored : ∀ claim record, next (some (claim, record)) = w.storedPlan l.given record)
    (hAbsent : ∀ rest, Runs (next none) rest ending →
      l.Plans w (.call (.getClaim w.resource) (some (.ok none)) :: rest) ending) :
    l.Plans w steps ending := by
  obtain ⟨finding, found, rest, rfl, hFind, hRest⟩ := runs_andThen.1 h
  cases Workspace.finds_of_runs hFind with
  | unusable hAnswer =>
    obtain ⟨rfl, rfl⟩ := runs_fail.1 hRest
    exact .unusable hAnswer
  | absent => exact hAbsent rest hRest
  | found hRecord =>
    rw [resume_ok, hStored] at hRest
    obtain ⟨rfl, ⟨f, rfl⟩ | ⟨plan, rfl, hPlan⟩⟩ := Workspace.runs_storedPlan hRecord hRest
    · exact .unusable nofun
    · exact .stored hPlan

/-- Only the question for the namespace comes before the plan is made, in one of the ways there
are. -/
theorem plans_of_runs {ending : Result Workspace.Plan} (h : Runs (l.plan w) steps ending) :
    ∃ naming rest, steps = naming ++ rest ∧ w.OnlyNames naming ∧ l.Plans w rest ending := by
  cases l with
  | run given =>
    obtain ⟨naming, _, rest, rfl, hNaming, hFind⟩ := runs_andThen.1 h
    obtain ⟨rfl, hNames⟩ := Workspace.runs_ensureNamespace hNaming
    refine ⟨naming, rest, rfl, hNames, plans_of_found hFind (fun _ _ => rfl) fun rest hNext => ?_⟩
    cases given with
    | none =>
      obtain ⟨rfl, rfl⟩ := runs_fail.1 hNext
      exact .refused (.inr (.inr ⟨_, rfl⟩))
    | some spec =>
      obtain ⟨rfl, f, rfl, hOption⟩ | ⟨claim, plan, answer, rfl, hPlan, rfl⟩ :=
        Workspace.runs_freshPlan hNext
      · exact .refused (.inl hOption)
      · exact .fresh hPlan
  | start =>
    refine ⟨[], steps, rfl, Workspace.onlyNames_nil,
      plans_of_found h (fun _ _ => rfl) fun rest hNext => ?_⟩
    obtain ⟨rfl, rfl⟩ := runs_fail.1 hNext
    exact .refused (.inr (.inl ⟨_, rfl⟩))

/-- A launch looks for the claim first. One that finds it goes on with what it says, and one that
does not creates it. -/
theorem runs_plan_ok {plan : Workspace.Plan} (h : Runs (l.plan w) steps (some (.ok plan))) :
    ∃ naming, w.OnlyNames naming ∧
      ((∃ claim, steps = naming ++ [.call (.getClaim w.resource) (some (.ok (some claim)))] ∧
          w.StoredPlan l.given claim plan) ∨
        ∃ claim, steps = naming ++ [.call (.getClaim w.resource) (some (.ok none)),
            .call (.createClaim claim) (some (.ok ()))] ∧ w.FreshPlan l.given claim plan) := by
  obtain ⟨naming, rest, rfl, hNaming, hPlans⟩ := plans_of_runs h
  refine ⟨naming, hNaming, ?_⟩
  generalize hEnding : some (Except.ok plan) = ending at hPlans
  cases hPlans with
  | unusable | refused => cases hEnding
  | @stored claim _ hPlan =>
    cases hEnding
    exact .inl ⟨claim, rfl, hPlan⟩
  | @fresh claim _ answer hPlan =>
    rcases answer with _ | (f | _) <;> cases hEnding
    exact .inr ⟨claim, rfl, hPlan⟩

/-- A launch with a specification finds a plan for that, and one for the template in any case. -/
theorem spec_and_template_of_plan {plan : Workspace.Plan}
    (h : Runs (l.plan w) steps (some (.ok plan))) :
    (∀ spec, l.given = some spec → plan.spec = spec) ∧ w.template = .ok plan.template := by
  obtain ⟨-, -, ⟨claim, -, hPlan⟩ | ⟨claim, -, hPlan⟩⟩ := runs_plan_ok h
  · obtain ⟨record, -, hSpec⟩ := hPlan.spec
    refine ⟨fun spec hGiven => ?_, hPlan.template⟩
    rw [hSpec, hGiven]
    rfl
  · refine ⟨fun spec hGiven => ?_, hPlan.template⟩
    simpa [hGiven] using hPlan.given.symm

end Launch

end PodWorkspace
