import PodWorkspace.Proofs.Manifest.WorkspacePod
import PodWorkspace.Proofs.Simulation.Follow
import PodWorkspace.Proofs.Simulation.Placement
import PodWorkspace.Proofs.Simulation.Record

/-! What a launch without a specification builds from the record of a workspace. It is the pod that
the launch which created the workspace has built, but for the init container that seeds volumes,
whatever was done to the workspace in between. -/

namespace PodWorkspace

open Cluster Program Simulation

/-- The objects of a cluster without the pod of a workspace and without its detection pods. -/
def Simulation.Store.withoutPods (s : Store) (w : Workspace) : Store :=
  { s with pods := (s.pods.erase w.resource).filter fun _ stored =>
      !Store.selects w.name.detectionSelector stored.pod }

theorem Simulation.Store.podsMatching_withoutPods (s : Store) (w : Workspace) :
    (s.withoutPods w).podsMatching w.name.detectionSelector = [] :=
  podsMatching_unselected s _ _

/-- A launch in a simulated cluster that creates a pod. -/
structure Raises (w : Workspace) (l : Launch) (around : Surroundings) (s : Store)
    (steps : List (Step interface)) (s' : Store) (pod : Pod) : Prop where
  runs : ∃ ending, Runs (l.program w) steps ending
  serves : Serves around s steps s'
  creates : ∃ a, .call (.createPod pod) a ∈ steps

/-- The pod of a plan where there are no detection pods. -/
def Workspace.podAlone (w : Workspace) (around : Surroundings) (plan : Workspace.Plan) : Logged Pod :=
  w.podOf plan (w.placement (w.usableSecret around plan.spec) [])

variable {w : Workspace} {l : Launch} {around : Surroundings} {s s' : Store}
  {steps : List (Step interface)} {spec : RunSpec} {pod : Pod}

/-- How a launch comes to the pod that it creates where there are no detection pods: it finds a
plan, with which it leaves the claims of the store, and builds the pod of the plan. -/
structure Launch.Derives (l : Launch) (w : Workspace) (around : Surroundings) (s : Store)
    (opening : List (Step interface)) (between : Store) (plan : Workspace.Plan) (pod : Pod) :
    Prop where
  planned : Runs (l.plan w) opening (some (.ok plan))
  opened : Serves around s opening between
  built : ∃ built, (w.podAlone around plan).outcome = .ok built ∧ pod = w.stamped built

theorem Raises.derives (h : Raises w l around s steps s' pod)
    (hNone : s.podsMatching w.name.detectionSelector = []) :
    ∃ opening between plan, l.Derives w around s opening between plan pod ∧
      s'.claims = between.claims ∧
      ((∃ claim, .call (.createClaim claim) (some (.ok ())) ∈ steps) ↔ plan.fresh = true) := by
  obtain ⟨ending, hRuns⟩ := h.runs
  obtain ⟨a, hMem⟩ := h.creates
  obtain ⟨opening, preparing, handling, plan, placement, detection, built, rfl, hBuilds, hReplace,
    rfl⟩ := Launch.builds_of_created hRuns hMem
  have hServes := h.serves
  rw [List.append_assoc] at hServes
  obtain ⟨between, hOpening, hRest⟩ := hServes.split
  obtain ⟨prepared, hPreparing, -⟩ := hRest.split
  -- No pod comes or goes while the plan is found, so there are no detection pods after that either.
  have hPods : between.pods = s.pods :=
    hOpening.pods_eq fun r a hMem => .inl (l.staysIn_plan hBuilds.planned r a hMem)
  have hStill : between.podsMatching w.name.detectionSelector = [] :=
    (Store.podsMatching_congr hPods).trans hNone
  obtain rfl := Workspace.runs_preparePod_placement hBuilds.prepared hPreparing hStill
  refine ⟨opening, between, plan, ⟨hBuilds.planned, hOpening, built, hBuilds.built, rfl⟩, ?_, ?_⟩
  · exact hRest.claims_eq fun r a => Launch.changesClaims_eq_false hBuilds hReplace
  · exact Launch.createsClaim_iff_fresh hBuilds hReplace

/-- A launch without a specification finds its plan on record. -/
theorem Launch.plan_of_records {plan : Workspace.Plan} (h : Runs (l.plan w) steps (some (.ok plan)))
    (hServes : Serves around s steps s') (hGiven : l.given = none) (hRecords : s.Records w spec) :
    plan = ⟨spec, plan.template, false⟩ := by
  obtain ⟨claim, hClaim, hRecord⟩ := hRecords
  obtain ⟨naming, hNaming, ⟨found, rfl, hPlan⟩ | ⟨found, rfl, hPlan⟩⟩ := runs_plan_ok h
  · obtain ⟨between, hNames, hFound⟩ := hServes.split
    have hClaims : between.claims = s.claims := hNames.claims_eq fun r a hMem => by
      obtain ⟨_, hStep⟩ := hNaming _ hMem
      cases hStep
      rfl
    have hSame : some found = between.claims.get? w.resource := Except.ok.inj hFound.eq_answer
    rw [hClaims, hClaim] at hSame
    cases hSame
    obtain ⟨record, hRead, hSpec⟩ := hPlan.spec
    rw [hRecord] at hRead
    cases hRead
    rw [hGiven] at hSpec
    rw [← hPlan.fresh, ← show plan.spec = spec from hSpec]
  · rw [hGiven] at hPlan
    cases hPlan.given

/-- A plan for a workspace that is not new has the pod of one that is, without the container that
seeds volumes. -/
theorem Workspace.podAlone_stored {around' : Surroundings} {spec : RunSpec} {template : Option Pod}
    {fresh : Bool} (hCredentials : around'.credentials = around.credentials)
    (h : (w.podAlone around ⟨spec, template, fresh⟩).outcome = .ok pod) :
    (w.podAlone around' ⟨spec, template, false⟩).outcome = .ok pod.withoutSeed := by
  rw [podAlone, usableSecret_congr hCredentials]
  exact Manifest.workspacePod_false h

/-- A launch without a specification rebuilds the pod of the launch that created the workspace,
without the init container that seeds volumes, and what is on record is what that launch was given.
-/
theorem Performs.rebuilt_from_record {s₁ s₂ : Store} {operations : List Operation}
    (hFirst : Raises w (.run (some spec)) around s steps s₁ pod)
    (hNone : s.podsMatching w.name.detectionSelector = [])
    (hFresh : ∃ claim, .call (.createClaim claim) (some (.ok ())) ∈ steps)
    (hLater : Performs w s₁ operations s₂) :
    s₂.Records w spec ∧
      ∀ (l : Launch) (around' : Surroundings) (steps' : List (Step interface)) (s₃ : Store)
        (pod' : Pod),
        l.given = none → around'.credentials = around.credentials →
        Raises w l around' (s₂.withoutPods w) steps' s₃ pod' →
        pod' = pod.withoutSeed ∧ s₃.Records w spec := by
  obtain ⟨opening, between, plan, hPlan, hClaims, hPlanFresh⟩ := hFirst.derives hNone
  obtain ⟨hSpec, hTemplate⟩ := Launch.spec_and_template_of_plan hPlan.planned
  obtain rfl : plan.spec = spec := hSpec spec rfl
  -- The first launch puts its specification on record, and the operations after it leave it there.
  have hRecords : s₂.Records w plan.spec := by
    refine hLater.records ?_
    rw [Store.Records, hClaims]
    exact Launch.records_of_plan hPlan.planned (hPlanFresh.1 hFresh) hPlan.opened
  refine ⟨hRecords, fun l around' steps' s₃ pod' hGiven hCredentials hLast => ?_⟩
  obtain ⟨opening', between', plan', hPlan', -, -⟩ :=
    hLast.derives (s₂.podsMatching_withoutPods w)
  -- So the last launch has the plan of the first one, but for the claim not being new.
  have hStored := Launch.plan_of_records hPlan'.planned hPlan'.opened hGiven hRecords
  obtain ⟨built, hBuilt, rfl⟩ := hPlan.built
  obtain ⟨built', hBuilt', rfl⟩ := hPlan'.built
  have hSame : plan'.template = plan.template := by
    have hTemplate' := (Launch.spec_and_template_of_plan hPlan'.planned).2
    simpa [hTemplate] using hTemplate'.symm
  rw [hStored, hSame, Workspace.podAlone_stored hCredentials hBuilt] at hBuilt'
  cases hBuilt'
  obtain ⟨ending, hRuns⟩ := hLast.runs
  have hOperation : Runs ((Operation.launch l).program w) steps' ending := hRuns
  exact ⟨rfl, Operation.records_of_runs hOperation hLast.serves hRecords⟩

/-- The launch that creates a workspace in an empty cluster. -/
def Workspace.firstLaunch : Followed interface Store Unit :=
  Store.follow {} .trusted ((Launch.run (some .notes)).program .notes)

/-- What may happen to the workspace later on: it is run with another specification, asked about and
stopped. -/
def Workspace.laterOperations : List Operation :=
  [.launch (.run (some { RunSpec.notes with image := "alpine" })), .find,
    .targetArchitecture "abc123", .stop]

/-- The launch that starts it after that, and after its pods were removed. -/
def Workspace.lastLaunch : Followed interface Store Unit :=
  ((firstLaunch.state.perform .notes .trusted laterOperations).withoutPods .notes).follow .trusted
    (Launch.start.program .notes)

/-- The pod is rebuilt as the first launch was told to build it. -/
theorem Performs.rebuilt_from_record_of_notes :
    ∃ (steps steps' : List (Step interface)) (s₁ s₂ s₃ : Store) (pod pod' : Pod),
      Raises .notes (.run (some .notes)) .trusted {} steps s₁ pod ∧
      Performs .notes s₁ Workspace.laterOperations s₂ ∧
      Raises .notes .start .trusted (s₂.withoutPods .notes) steps' s₃ pod' ∧
      pod.IsSeeded ∧ pod' = pod.withoutSeed ∧ s₃.Records .notes .notes := by
  obtain ⟨pod, hPod, hSeeded⟩ := (Option.any_eq_true _ _).1
    (show (firstPod? Workspace.firstLaunch.steps).any (fun pod => pod.IsSeeded) = true by
      decide +kernel)
  obtain ⟨pod', hPod'⟩ := Option.isSome_iff_exists.1
    (show (firstPod? Workspace.lastLaunch.steps).isSome = true by decide +kernel)
  obtain ⟨claim, hClaim⟩ := Option.isSome_iff_exists.1
    (show (firstClaim? Workspace.firstLaunch.steps).isSome = true by decide +kernel)
  have hFirst : Raises .notes (.run (some .notes)) .trusted {} Workspace.firstLaunch.steps
      Workspace.firstLaunch.state pod :=
    ⟨⟨_, Store.runs_follow _ _ _⟩, Store.serves_follow _ _ _, _, mem_of_firstPod hPod⟩
  have hLater :=
    performs_perform .notes .trusted Workspace.laterOperations Workspace.firstLaunch.state
  have hLast : Raises .notes .start .trusted _ Workspace.lastLaunch.steps
      Workspace.lastLaunch.state pod' :=
    ⟨⟨_, Store.runs_follow _ _ _⟩, Store.serves_follow _ _ _, _, mem_of_firstPod hPod'⟩
  obtain ⟨-, hRebuilt⟩ := rebuilt_from_record hFirst rfl ⟨claim, mem_of_firstClaim hClaim⟩ hLater
  obtain ⟨hSame, hRecords⟩ := hRebuilt _ _ _ _ _ rfl rfl hLast
  exact ⟨_, _, _, _, _, pod, pod', hFirst, hLater, hLast, by simpa using hSeeded, hSame, hRecords⟩

end PodWorkspace
