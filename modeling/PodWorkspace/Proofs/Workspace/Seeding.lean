import PodWorkspace.Proofs.Manifest.WorkspacePod
import PodWorkspace.Proofs.Simulation.Follow
import PodWorkspace.Proofs.Workspace.Operation

/-! When the volumes of a workspace are seeded. The init container that does it goes into the pod of
the very launch that creates the volume claim and into no other, so that volumes are seeded before
they are first used exactly when that launch also creates the first pod. -/

namespace PodWorkspace

open Cluster Program

/-- How a step may change the volume claim of a workspace, and what a look at it shows. A creation
that is not reported as done may have taken effect all the same. -/
inductive ClaimStep (w : Workspace) :
    Option VolumeClaim → Step interface → Option VolumeClaim → Prop
  | seen (claim : Option VolumeClaim) :
      ClaimStep w claim (.call (.getClaim w.resource) (some (.ok claim))) claim
  | created {before : Option VolumeClaim} {claim stored : VolumeClaim}
      (hStored : stored.metadata.annotations = claim.metadata.annotations) :
      ClaimStep w before (.call (.createClaim claim) (some (.ok ()))) (some stored)
  | lost {before : Option VolumeClaim} {claim stored : VolumeClaim} {answer : Result Unit}
      (hAnswer : answer ≠ some (.ok ()))
      (hStored : stored.metadata.annotations = claim.metadata.annotations) :
      ClaimStep w before (.call (.createClaim claim) answer) (some stored)
  | kept {claim : Option VolumeClaim} {step : Step interface}
      (hSeen : ∀ found, step ≠ .call (.getClaim w.resource) (some (.ok found)))
      (hCreated : ∀ created, step ≠ .call (.createClaim created) (some (.ok ()))) :
      ClaimStep w claim step claim

/-- How a run may change the volume claim of a workspace. -/
inductive ClaimSteps (w : Workspace) :
    Option VolumeClaim → List (Step interface) → Option VolumeClaim → Prop
  | nil (claim : Option VolumeClaim) : ClaimSteps w claim [] claim
  | cons {before between after : Option VolumeClaim} {step : Step interface}
      {steps : List (Step interface)} (hStep : ClaimStep w before step between)
      (hSteps : ClaimSteps w between steps after) : ClaimSteps w before (step :: steps) after

/-- An operation that was performed, with the volume claim that it found and left. -/
structure Performed where
  operation : Operation
  steps : List (Step interface)
  ending : Result Unit
  before : Option VolumeClaim
  after : Option VolumeClaim

/-- Operations performed one after another, from a volume claim on. Each may fail at any of its
steps. -/
inductive History (w : Workspace) : Option VolumeClaim → List Performed → Prop
  | nil (claim : Option VolumeClaim) : History w claim []
  | cons {p : Performed} {later : List Performed}
      (hRuns : Runs (p.operation.program w) p.steps p.ending)
      (hClaim : ClaimSteps w p.before p.steps p.after) (hLater : History w p.after later) :
      History w p.before (p :: later)

namespace Performed

/-- Whether a launch has created a pod. -/
def Creates (p : Performed) (l : Launch) (pod : Pod) : Prop :=
  p.operation = .launch l ∧ .call (.createPod pod) (some (.ok ())) ∈ p.steps

/-- Whether the volume claim was created. -/
def CreatesClaim (p : Performed) : Prop :=
  ∃ claim, .call (.createClaim claim) (some (.ok ())) ∈ p.steps

end Performed

/-- The first pod that is created in a history, and the specification that it is built from. -/
structure FirstPod (w : Workspace) (history : List Performed) (p : Performed) (pod : Pod)
    (spec : RunSpec) : Prop where
  position : ∃ earlier later, history = earlier ++ p :: later ∧
    ∀ q ∈ earlier, ∀ l pod, ¬q.Creates l pod
  created : ∃ l, p.Creates l pod ∧ l.spec? w p.before = some spec

namespace ClaimSteps

variable {w : Workspace} {before after : Option VolumeClaim} {naming rest : List (Step interface)}

/-- What a look at the claim finds is the claim, when nothing but the namespace was asked for
before. -/
theorem found_eq {found : Option VolumeClaim}
    (h : ClaimSteps w before
      (naming ++ .call (.getClaim w.resource) (some (.ok found)) :: rest) after)
    (hNaming : w.OnlyNames naming) : found = before := by
  induction naming generalizing before with
  | nil =>
    cases h with
    | cons hStep hSteps =>
      cases hStep with
      | seen => rfl
      | kept hSeen hCreated => exact absurd rfl (hSeen found)
  | cons step naming ih =>
    obtain ⟨a, rfl⟩ := hNaming step List.mem_cons_self
    cases h with
    | cons hStep hSteps =>
      cases hStep with
      | kept hSeen hCreated => exact ih hSteps fun s hMem => hNaming s (List.mem_cons_of_mem _ hMem)

end ClaimSteps

theorem Cluster.Pod.isSeeded_stamped (w : Workspace) (pod : Pod) :
    (w.stamped pod).IsSeeded ↔ pod.IsSeeded :=
  Iff.rfl

namespace Launch

variable {w : Workspace} {l : Launch} {steps opening preparing handling : List (Step interface)}
  {ending : Result Unit} {before after : Option VolumeClaim} {plan : Workspace.Plan}
  {placement : Manifest.Placement} {detection : List String} {built pod : Pod}

/-- A pod is built from what is given or from what the claim says. -/
theorem spec_of_builds (h : l.Builds w opening preparing plan placement detection built)
    (hClaim : ClaimSteps w before (opening ++ steps) after) : l.spec? w before = some plan.spec := by
  obtain ⟨naming, hNaming, ⟨claim, rfl, hPlan⟩ | ⟨claim, rfl, hPlan⟩⟩ := runs_plan_ok h.planned
  · rw [List.append_assoc] at hClaim
    rw [← hClaim.found_eq hNaming]
    exact spec_of_storedPlan hPlan
  · exact spec_of_freshPlan hPlan before

/-- A launch seeds volumes, if there are any, when it has created the claim. -/
theorem isSeeded_iff_of_created (h : Runs (l.program w) steps ending)
    (hClaim : ClaimSteps w before steps after) {a : Result Unit}
    (hMem : .call (.createPod pod) a ∈ steps) :
    ∃ spec, l.spec? w before = some spec ∧
      (pod.IsSeeded ↔ (∃ claim, .call (.createClaim claim) (some (.ok ())) ∈ steps) ∧
        spec.mounts.any Mount.isVolume = true) := by
  obtain ⟨opening, preparing, handling, plan, placement, detection, built, rfl, hBuilds, hReplace,
    rfl⟩ := builds_of_created h hMem
  have hSpec : l.spec? w before = some plan.spec := by
    rw [List.append_assoc] at hClaim
    exact spec_of_builds hBuilds hClaim
  refine ⟨plan.spec, hSpec, ?_⟩
  rw [Pod.isSeeded_stamped, Manifest.isSeeded_workspacePod hBuilds.built,
    createsClaim_iff_fresh hBuilds hReplace]

end Launch

namespace History

variable {w : Workspace} {claim : Option VolumeClaim} {history : List Performed} {p : Performed}

/-- Each operation of a history ran, and the claim went along with it. -/
theorem runs_of_mem (h : History w claim history) (hMem : p ∈ history) :
    Runs (p.operation.program w) p.steps p.ending ∧ ClaimSteps w p.before p.steps p.after := by
  induction h with
  | nil => simp at hMem
  | cons hRuns hClaim hLater ih =>
    obtain rfl | hMem := List.mem_cons.1 hMem
    · exact ⟨hRuns, hClaim⟩
    · exact ih hMem

/-- The first pod of a workspace seeds the volumes that it has exactly when the launch that created
it also created the volume claim. -/
theorem first_pod_isSeeded_iff (h : History w none history) {pod : Pod} {spec : RunSpec}
    (hFirst : FirstPod w history p pod spec) (hVolume : spec.mounts.any Mount.isVolume = true) :
    pod.IsSeeded ↔ p.CreatesClaim := by
  obtain ⟨earlier, later, rfl, -⟩ := hFirst.position
  obtain ⟨l, ⟨hLaunch, hCreated⟩, hSpec⟩ := hFirst.created
  obtain ⟨hRuns, hClaim⟩ := h.runs_of_mem (p := p) (by simp)
  rw [hLaunch] at hRuns
  obtain ⟨spec', hSpec', hSeeded⟩ := Launch.isSeeded_iff_of_created hRuns hClaim hCreated
  obtain rfl : spec' = spec := by simpa [hSpec] using hSpec'.symm
  rw [hSeeded, and_iff_left hVolume]
  rfl

/-- What a cluster answers that keeps nothing but a claim, when it answers the creation of a pod in
one way. -/
def answer (creation : Result Unit) (claim : Option VolumeClaim) :
    (r : Request) → Result r.Answer × Option VolumeClaim
  | .getClaim _ => (some (.ok claim), claim)
  | .createClaim created => (some (.ok ()), some created)
  | .getPod _ => (some (.ok none), claim)
  | .createPod _ => (creation, claim)
  | .getServiceAccount _ => (some (.ok none), claim)
  | .createServiceAccount _ => (some (.ok ()), claim)
  | _ => (some (.error (.ofCommand "cluster" "refused")), claim)

/-- A launch in such a cluster. -/
def performed (w : Workspace) (creation : Result Unit) (claim : Option VolumeClaim) (l : Launch) :
    Performed :=
  let followed := follow (answer creation) claim (l.program w)
  ⟨.launch l, followed.steps, followed.ending, claim, followed.state⟩

theorem claimStep_answer (w : Workspace) (creation : Result Unit) (claim : Option VolumeClaim)
    (r : Request) :
    ClaimStep w claim (.call r (answer creation claim r).1) (answer creation claim r).2 := by
  cases r with
  | getClaim name =>
    by_cases hName : name = w.resource
    · rw [hName]
      exact .seen claim
    · refine .kept (fun found hStep => ?_) fun _ => nofun
      cases hStep
      exact hName rfl
  | createClaim created => exact .created rfl
  | _ => exact .kept (fun _ => nofun) fun _ => nofun

theorem claimSteps_follow {α : Type} (w : Workspace) (creation : Result Unit)
    (claim : Option VolumeClaim) (x : Action α) :
    ClaimSteps w claim (follow (answer creation) claim x).steps
      (follow (answer creation) claim x).state := by
  induction x generalizing claim with
  | done a => exact .nil claim
  | fail f => exact .nil claim
  | cutOff => exact .nil claim
  | log e rest ih => exact ih claim
  | call deadline request next ih => exact .cons (claimStep_answer w creation claim request) (ih _ _)
  | clock next ih => exact .cons (.kept (fun _ => nofun) fun _ => nofun) (ih _ _)
  | sleep deadline till next ih => exact .cons (.kept (fun _ => nofun) fun _ => nofun) (ih _ _)

theorem cons_performed {w : Workspace} {creation : Result Unit} {claim : Option VolumeClaim}
    {l : Launch} {later : List Performed} (h : History w (performed w creation claim l).after later) :
    History w claim (performed w creation claim l :: later) :=
  .cons (runs_follow _ _ _) (claimSteps_follow w creation claim (l.program w)) h

/-- A launch that creates the claim and the pod. -/
def undisturbed : Performed := performed .notes (some (.ok ())) none (.run (some .notes))

/-- A launch that creates the claim but fails to create the pod. -/
def interrupted : Performed :=
  performed .notes (some (.error (.ofCommand "create pod" "refused"))) none (.run (some .notes))

/-- The launch that then creates the pod. -/
def resumed : Performed := performed .notes (some (.ok ())) interrupted.after .start

/-- The first pod is seeded when nothing comes between the claim and the pod. -/
theorem first_pod_isSeeded_iff_of_undisturbed :
    ∃ pod, History .notes none [undisturbed] ∧ FirstPod .notes [undisturbed] undisturbed pod .notes ∧
      undisturbed.CreatesClaim ∧ pod.IsSeeded := by
  have hHistory : History .notes none [undisturbed] := cons_performed (.nil _)
  obtain ⟨pod, hPod⟩ := Option.isSome_iff_exists.1
    (show (Simulation.firstPod? undisturbed.steps).isSome = true by decide +kernel)
  obtain ⟨claim, hClaim⟩ := Option.isSome_iff_exists.1
    (show (Simulation.firstClaim? undisturbed.steps).isSome = true by decide +kernel)
  have hFirst : FirstPod .notes [undisturbed] undisturbed pod .notes :=
    ⟨⟨[], [], rfl, by simp⟩, .run (some .notes), ⟨rfl, Simulation.mem_of_firstPod hPod⟩, rfl⟩
  have hCreates : undisturbed.CreatesClaim := ⟨claim, Simulation.mem_of_firstClaim hClaim⟩
  exact ⟨pod, hHistory, hFirst, hCreates, (first_pod_isSeeded_iff hHistory hFirst rfl).2 hCreates⟩

/-- The first pod is not seeded when its creation has failed once, although it has a volume. -/
theorem first_pod_unseeded_of_interrupted :
    ∃ pod, History .notes none [interrupted, resumed] ∧
      FirstPod .notes [interrupted, resumed] resumed pod .notes ∧
      RunSpec.notes.mounts.any Mount.isVolume = true ∧ ¬pod.IsSeeded := by
  have hNone : Simulation.firstPod? interrupted.steps = none := by decide +kernel
  obtain ⟨hAny, hSpec⟩ : (Simulation.firstPod? resumed.steps).any (fun pod => !pod.IsSeeded) = true ∧
      Launch.start.spec? .notes interrupted.after = some .notes := by decide +kernel
  obtain ⟨pod, hPod, hUnseeded⟩ := (Option.any_eq_true _ _).1 hAny
  refine ⟨pod, cons_performed (cons_performed (.nil _)), ⟨⟨[interrupted], [], rfl, ?_⟩, .start,
    ⟨rfl, Simulation.mem_of_firstPod hPod⟩, hSpec⟩, rfl, by simpa using hUnseeded⟩
  rintro q hMem l pod ⟨-, hCreated⟩
  rw [List.mem_singleton.1 hMem] at hCreated
  exact Simulation.not_mem_of_firstPod hNone hCreated

end History

end PodWorkspace
