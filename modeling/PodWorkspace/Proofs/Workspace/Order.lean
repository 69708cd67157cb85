import PodWorkspace.Proofs.Manifest.WorkspacePod
import PodWorkspace.Proofs.Simulation.Follow
import PodWorkspace.Proofs.Split
import PodWorkspace.Proofs.Workspace.Account
import PodWorkspace.Proofs.Workspace.Handling

/-! The order in which a launch does what it does, whatever it is answered and wherever it stops. The
volume claim comes before all that a pod depends on, that comes before the pod, and a pod that is
created relies on nothing that was not seen to before. -/

namespace PodWorkspace

open Cluster Program

/-! ### What an order is -/

/-- What the pull secrets of a pod come from, when it is created between some steps. -/
inductive PullsWith (w : Workspace) (before after : List (Step interface)) (pod : Pod) : Prop
  /-- They are those of the template, since no credentials are wanted, or none are to be had for the
  registry of the image of the pod. -/
  | declared {template : Option Pod} (hTemplate : w.template = .ok template)
      (hPod : pod.pullSecrets? = template.bind Pod.pullSecrets?)
      (hNone : w.options.manifest.pullSecretsEnabled = false ∨
        ∃ image registry answer, pod.RunsImage image ∧
          PullSecret.LooksUp image registry answer none ∧
          .call (.lookUp registry) (some answer) ∈ before)
  /-- It is the secret of the workspace, which was shown to hold the credentials for the registry of
  the image of the pod and was not deleted after that. -/
  | attached {image registry : String} {answer : Except Failure (Option Registry.Credentials)}
      {credentials : Registry.Credentials} {earlier later : List (Step interface)}
      {step : Step interface} (hEnabled : w.options.manifest.pullSecretsEnabled = true)
      (hPod : pod.pullSecrets? = some [w.name.pullSecret]) (hImage : pod.RunsImage image)
      (hLooksUp : PullSecret.LooksUp image registry answer (some credentials))
      (hSteps : before = earlier ++ step :: later)
      (hAnswer : .call (.lookUp registry) (some answer) ∈ earlier)
      (hShows : PullSecret.ShowsSecret w.name.pullSecret w.namespace
        (PullSecret.contentFor registry credentials) step)
      (hKept : timesAsked Request.deletesSecret (later ++ after) = 0)

/-- What has been done for a pod that is created between some steps. -/
structure Supported (w : Workspace) (before after : List (Step interface)) (pod : Pod) : Prop where
  /-- A pod that was there has been deleted. -/
  cleared : ∀ name existing, .call (.getPod name) (some (.ok (some existing))) ∈ before →
    .call (.deletePodAndWait w.resource w.options.podTimeout) (some (.ok ())) ∈ before
  /-- The pod runs under the account of the options, which was found or has been created. -/
  account : ∀ account, w.options.manifest.serviceAccount = some account →
    pod.account? = some account ∧
      ((∃ existing, .call (.getServiceAccount account) (some (.ok (some existing))) ∈ before) ∨
        .call (.createServiceAccount (Manifest.serviceAccount account w.namespace)) (some (.ok ())) ∈
          before)
  pullSecrets : PullsWith w before after pod

/-- The order of the steps of a launch. -/
structure InOrder (w : Workspace) (l : Launch) (steps : List (Step interface)) : Prop where
  claim_once : timesAsked Request.createsClaim steps ≤ 1
  /-- A claim is created only for a specification that is given, where there is none, and before all
  that a pod depends on. -/
  claim : ∀ (before : List (Step interface)) claim a after,
    steps = before ++ .call (.createClaim claim) a :: after →
    (∃ spec, l = .run (some spec)) ∧ .call (.getClaim w.resource) (some (.ok none)) ∈ before ∧
      timesAsked Request.createsForPod before = 0
  pod_once : timesAsked Request.createsPod steps ≤ 1
  pod : ∀ before pod a after, steps = before ++ .call (.createPod pod) a :: after →
    Supported w before after pod

namespace Workspace

variable {w : Workspace} {steps before after : List (Step interface)} {pod created : Pod}
  {detection : List String} {ending : Result Unit} {a : Result Unit}

/-- In what follows on the creation of a pod nothing is created. -/
theorem timesAsked_createsPod_aftercare (h : ∀ r a, .call r a ∈ after → w.IsAftercare r) :
    timesAsked Request.createsPod after = 0 := by
  rw [timesAsked_eq_zero]
  intro r a hMem
  obtain (rfl | rfl) | rfl := h r a hMem <;> rfl

/-- The creation of a pod comes first among the steps that create it, and comes once. -/
theorem split_createPod (lead : List (Step interface)) {rest : List (Step interface)}
    (hCreate : Runs (w.createPod pod detection) rest ending)
    (hLead : timesAsked Request.createsPod lead = 0)
    (hSteps : lead ++ rest = before ++ .call (.createPod created) a :: after) :
    before = lead ∧ ∀ r a, .call r a ∈ after → w.IsAftercare r := by
  obtain ⟨answer, later, rfl, hLater⟩ := runs_createPod hCreate
  obtain ⟨rfl, -, rfl⟩ :=
    eq_of_only_asked hLead (timesAsked_createsPod_aftercare hLater) rfl rfl hSteps
  exact ⟨rfl, hLater⟩

theorem not_created (hNone : timesAsked Request.createsPod steps = 0)
    (hSteps : steps = before ++ .call (.createPod created) a :: after) : False := by
  cases timesAsked_eq_zero.1 hNone (.createPod created) a (by simp [hSteps])

/-- Before a pod is created there is only the look at the one that is there, and its deletion. -/
theorem Replaces.split_created (h : w.Replaces pod detection steps ending)
    (hSteps : steps = before ++ .call (.createPod created) a :: after) :
    (before = [.call (.getPod w.resource) (some (.ok none))] ∨
      ∃ existing, before = [.call (.getPod w.resource) (some (.ok (some existing))),
        .call (.deletePodAndWait w.resource w.options.podTimeout) (some (.ok ()))]) ∧
      ∀ r a, .call r a ∈ after → w.IsAftercare r := by
  cases h with
  | unseen | current | undeleted => exact (not_created rfl hSteps).elim
  | absent hCreate =>
    obtain ⟨rfl, hAfter⟩ := split_createPod [_] hCreate rfl hSteps
    exact ⟨.inl rfl, hAfter⟩
  | replaced hCarries hCreate =>
    obtain ⟨rfl, hAfter⟩ := split_createPod [_, _] hCreate rfl hSteps
    exact ⟨.inr ⟨_, rfl⟩, hAfter⟩

/-- From the creation of a pod on, the handling of it is a run of that. -/
theorem Replaces.creates (h : w.Replaces pod detection steps ending)
    (hSteps : steps = before ++ .call (.createPod created) a :: after) :
    Runs (w.createPod pod detection) (.call (.createPod created) a :: after) ending := by
  have hRest (lead : List (Step interface)) {rest : List (Step interface)}
      (hCreate : Runs (w.createPod pod detection) rest ending)
      (hLead : timesAsked Request.createsPod lead = 0)
      (hSteps : lead ++ rest = before ++ .call (.createPod created) a :: after) :
      Runs (w.createPod pod detection) (.call (.createPod created) a :: after) ending := by
    obtain ⟨rfl, -⟩ := split_createPod lead hCreate hLead hSteps
    exact List.append_cancel_left hSteps ▸ hCreate
  cases h with
  | unseen | current | undeleted => exact (not_created rfl hSteps).elim
  | absent hCreate => exact hRest [_] hCreate rfl hSteps
  | replaced _ hCreate => exact hRest [_, _] hCreate rfl hSteps

/-- At most one pod is created. -/
theorem Replaces.timesAsked_createsPod (h : w.Replaces pod detection steps ending) :
    timesAsked Request.createsPod steps ≤ 1 := by
  have hOnce {rest : List (Step interface)} (hCreate : Runs (w.createPod pod detection) rest ending) :
      timesAsked Request.createsPod rest ≤ 1 := by
    obtain ⟨answer, later, rfl, hLater⟩ := runs_createPod hCreate
    simp [timesAsked_createsPod_aftercare hLater, Request.createsPod]
  cases h with
  | unseen | current | undeleted => exact Nat.zero_le 1
  | absent hCreate => simpa [Request.createsPod] using hOnce hCreate
  | replaced _ hCreate => simpa [Request.createsPod] using hOnce hCreate

/-- The account that the options name is found or created. -/
theorem SeesAccess.account (h : w.SeesAccess steps) {account : String}
    (hAccount : w.options.manifest.serviceAccount = some account) :
    (∃ existing, .call (.getServiceAccount account) (some (.ok (some existing))) ∈ steps) ∨
      .call (.createServiceAccount (Manifest.serviceAccount account w.namespace)) (some (.ok ())) ∈
        steps := by
  have hSeen {other : String} {steps : List (Step interface)} (hSees : w.SeesAccount other steps)
      (hOther : w.options.manifest.serviceAccount = some other) :
      (∃ existing, .call (.getServiceAccount account) (some (.ok (some existing))) ∈ steps) ∨
        .call (.createServiceAccount (Manifest.serviceAccount account w.namespace)) (some (.ok ())) ∈
          steps := by
    obtain rfl : other = account := by simpa [hOther] using hAccount
    cases hSees with
    | found => exact .inl ⟨_, List.mem_cons_self⟩
    | created => exact .inr (by simp)
  cases h with
  | unwanted hNone => simp [hNone] at hAccount
  | unbound hOther hSees => exact hSeen hSees hOther
  | bound hOther hSees hBinds =>
    exact (hSeen hSees hOther).imp (fun ⟨existing, hMem⟩ => ⟨existing, List.mem_append_left _ hMem⟩)
      (List.mem_append_left _)

end Workspace

namespace Launch

variable {w : Workspace} {l : Launch} {steps before after : List (Step interface)}
  {ending : Result Unit}

/-- A claim is created where none was found, and nothing is created before it but the namespace. -/
theorem Plans.split_createClaim {plan : Result Workspace.Plan} {claim : VolumeClaim}
    {a : Result Unit} (h : l.Plans w steps plan)
    (hSteps : steps = before ++ .call (.createClaim claim) a :: after) :
    (∃ spec, l.given = some spec) ∧ before = [.call (.getClaim w.resource) (some (.ok none))] ∧
      after = [] := by
  have hNone (hCount : timesAsked Request.createsClaim steps = 0) : False := by
    cases timesAsked_eq_zero.1 hCount (.createClaim claim) a (by simp [hSteps])
  cases h with
  | unusable | stored | refused => exact (hNone rfl).elim
  | fresh hPlan =>
    have hLook : timesAsked (I := interface) Request.createsClaim
        [.call (.getClaim w.resource) (some (.ok none))] = 0 := rfl
    obtain ⟨rfl, -, rfl⟩ := eq_of_only_asked hLook (timesAsked_nil _) rfl rfl hSteps
    exact ⟨⟨_, hPlan.given⟩, rfl, rfl⟩

theorem Plans.timesAsked_createsClaim {plan : Result Workspace.Plan} (h : l.Plans w steps plan) :
    timesAsked Request.createsClaim steps ≤ 1 := by
  cases h with
  | unusable | stored | refused => exact Nat.zero_le 1
  | fresh hPlan => exact Nat.le_refl 1

/-- The claim is dealt with by the plan alone. -/
theorem runs_program_claim (h : Runs (l.program w) steps ending) :
    ∃ naming opening rest plan, steps = naming ++ (opening ++ rest) ∧
      w.OnlyNames naming ∧ l.Plans w opening plan ∧ timesAsked Request.createsClaim rest = 0 := by
  rw [program_eq_plan] at h
  obtain ⟨_, plan, rest, rfl, hPlan, hApply⟩ := runs_andThen.1 h
  obtain ⟨naming, opening, rfl, hNaming, hPlans⟩ := plans_of_runs hPlan
  refine ⟨naming, opening, rest, plan, by simp, hNaming, hPlans, ?_⟩
  rcases plan with _ | (f | plan)
  · rw [(runs_cutOff.1 hApply).1]
    rfl
  · rw [(runs_fail.1 hApply).1]
    rfl
  · refine (Workspace.asksOnly_applyPod plan).timesAsked hApply fun r hStage => ?_
    cases r with
    | createClaim => rcases hStage with hStage | hStage <;> cases hStage
    | _ => rfl

section Pod

variable {opening accounts syncing listing looking : List (Step interface)} {plan : Workspace.Plan}
  {pullSecret : Option String} {detection : List String} {built : Pod}

/-- The pull secrets of a pod that was built with what was seen to before. -/
theorem pullsWith_of_prepared
    (hSync : Runs (w.ensurePullSecret plan.spec) syncing (some (.ok pullSecret)))
    (hList : Runs w.detectionPods listing (some (.ok detection)))
    (hTemplate : w.template = .ok plan.template)
    (hBuilt : (w.podOf plan (w.placement pullSecret detection)).outcome = .ok built)
    (hKept : timesAsked Request.deletesSecret (looking ++ after) = 0) :
    PullsWith w (opening ++ (accounts ++ (syncing ++ listing)) ++ looking) after
      (w.stamped built) := by
  obtain ⟨hImage, -, hSecrets⟩ := Manifest.workspacePod_placed hBuilt
  obtain ⟨hDisabled, -, rfl⟩ | ⟨hEnabled, outcome, hSyncs, rfl⟩ :=
    Workspace.runs_ensurePullSecret_ok hSync
  · exact .declared hTemplate hSecrets (.inl hDisabled)
  cases hOutcome : outcome.isAttachable with
  | false =>
    rw [hOutcome] at hSecrets
    cases hSyncs with
    | unusable hLooksUp =>
      exact .declared hTemplate hSecrets
        (.inr ⟨_, _, _, ⟨hImage.present, hImage.image⟩, hLooksUp, by simp⟩)
    | kept | created | replaced => cases hOutcome
  | true =>
    obtain ⟨registry, answer, credentials, earlier, step, hLooksUp, rfl, hAnswer, hShows⟩ :=
      hSyncs.showsSecret hOutcome
    rw [hOutcome] at hSecrets
    have hListing : timesAsked Request.deletesSecret listing = 0 :=
      Workspace.inquires_detectionPods.asksOnly.timesAsked hList fun r hr => by rw [hr]; rfl
    have hCut : opening ++ (accounts ++ (earlier ++ [step] ++ listing)) ++ looking =
        (opening ++ (accounts ++ earlier)) ++ step :: (listing ++ looking) := by simp
    refine .attached hEnabled hSecrets ⟨hImage.present, hImage.image⟩ hLooksUp hCut
      (by simp [hAnswer]) hShows ?_
    rw [List.append_assoc, timesAsked_append, hListing, hKept]

end Pod

/-- A pod is created when all it relies on has been seen to. -/
theorem supported_of_created {pod : Pod} {a : Result Unit} (h : Runs (l.program w) steps ending)
    (hSteps : steps = before ++ .call (.createPod pod) a :: after) :
    Supported w before after pod := by
  obtain ⟨opening, preparing, handling, plan, _, detection, built, hWhole, hBuilds, hReplace, rfl⟩ :=
    builds_of_created h (show .call (.createPod pod) a ∈ steps by simp [hSteps])
  obtain ⟨accounts, syncing, listing, pullSecret, rfl, hAccounts, hSync, hList, rfl⟩ :=
    Workspace.runs_preparePod_ok hBuilds.prepared
  -- The pod is created while pods are handled, so all that is known before that comes before it.
  obtain ⟨looking, rfl, hHandling⟩ := split_of_not_mem_left (hWhole.symm.trans hSteps) fun hMem =>
    hBuilds.isPreliminary _ _ hMem rfl
  obtain ⟨hLooking, hAfter⟩ := (Workspace.replaces_of_runs hReplace).split_created hHandling
  have hTemplate := (spec_and_template_of_plan hBuilds.planned).2
  have hLater : timesAsked Request.deletesSecret after = 0 := by
    rw [timesAsked_eq_zero]
    intro r a hMem
    obtain (rfl | rfl) | rfl := hAfter r a hMem <;> rfl
  refine ⟨fun name existing hMem => ?_, fun account hAccount => ⟨?_, ?_⟩, ?_⟩
  · obtain hEarly | hLook := List.mem_append.1 hMem
    · exact absurd rfl (hBuilds.isPreliminary _ _ hEarly)
    · obtain rfl | ⟨_, rfl⟩ := hLooking
      · cases List.mem_singleton.1 hLook
      · simp
  · have hPlaced := (Manifest.workspacePod_placed hBuilds.built).2.1
    rw [show (w.stamped built).account? = built.account? from rfl, hPlaced, Workspace.placement,
      hAccount]
    rfl
  · refine ((Workspace.seesAccess_of_runs hAccounts).account hAccount).imp ?_
      fun hMem => by simp [hMem]
    exact fun ⟨existing, hMem⟩ => ⟨existing, by simp [hMem]⟩
  · refine pullsWith_of_prepared hSync hList hTemplate hBuilds.built ?_
    rw [timesAsked_append, hLater]
    obtain rfl | ⟨_, rfl⟩ := hLooking <;> rfl

/-- Whatever a launch is answered and wherever it stops, its steps are in order. -/
theorem inOrder_of_runs (h : Runs (l.program w) steps ending) : InOrder w l steps where
  claim_once := by
    obtain ⟨naming, opening, rest, plan, rfl, hNaming, hPlans, hRest⟩ := runs_program_claim h
    rw [timesAsked_append, timesAsked_append, hRest, hNaming.timesAsked fun _ => rfl]
    simpa using hPlans.timesAsked_createsClaim
  claim before claim a after hSteps := by
    obtain ⟨naming, opening, rest, plan, rfl, hNaming, hPlans, hRest⟩ := runs_program_claim h
    obtain ⟨inner, rfl, hInner⟩ := split_of_not_mem_left hSteps fun hMem => by
      obtain ⟨_, hStep⟩ := hNaming _ hMem
      cases hStep
    obtain ⟨others, hOpening, -⟩ := split_of_not_mem_right hInner fun hMem => by
      cases timesAsked_eq_zero.1 hRest _ _ hMem
    obtain ⟨⟨spec, hGiven⟩, rfl, -⟩ := hPlans.split_createClaim hOpening
    refine ⟨⟨spec, ?_⟩, by simp, ?_⟩
    · cases l with
      | run given => exact congrArg run hGiven
      | start => cases hGiven
    · rw [timesAsked_append, hNaming.timesAsked fun _ => rfl]
      rfl
  pod_once := by
    obtain ⟨hNone, -⟩ | ⟨opening, preparing, handling, plan, placement, detection, pod, rfl, hBuilds,
      hReplace⟩ := runs_program h
    · rw [hNone.timesAsked fun _ => Request.stage_of_createsPod]
      exact Nat.zero_le 1
    · rw [timesAsked_append, hBuilds.isPreliminary.timesAsked fun _ => Request.stage_of_createsPod,
        Nat.zero_add]
      exact (Workspace.replaces_of_runs hReplace).timesAsked_createsPod
  pod before pod a after hSteps := supported_of_created h hSteps

/-- A cluster with another pod in the place of that of the workspace, and without its claim. -/
def occupied : Simulation.Store := { Simulation.Store.finished with claims := ∅ }

/-- A launch there. -/
def replacing : Followed interface Simulation.Store Unit :=
  occupied.follow .trusted ((run (some .notes)).program .notes)

/-- It deletes that pod, and its own runs under the account of the options with the pull secret of the
workspace. -/
theorem inOrder_of_runs_of_replacing :
    ∃ (ending : Result Unit) (before after : List (Step interface)) (pod : Pod),
      Runs ((run (some .notes)).program .notes) replacing.steps ending ∧
      InOrder .notes (run (some .notes)) replacing.steps ∧
      replacing.steps = before ++ .call (.createPod pod) (some (.ok ())) :: after ∧
      pod.account? = some "dev" ∧
      pod.pullSecrets? = some [Workspace.notes.name.pullSecret] := by
  have hRuns := occupied.runs_follow .trusted ((run (some .notes)).program .notes)
  obtain ⟨pod, hPod, hSecrets⟩ := (Option.any_eq_true _ _).1
    (show (Simulation.firstPod? replacing.steps).any (fun pod =>
      pod.pullSecrets? = some [Workspace.notes.name.pullSecret]) = true by decide +kernel)
  obtain ⟨before, after, hSteps⟩ := List.append_of_mem (Simulation.mem_of_firstPod hPod)
  have hOrder := inOrder_of_runs hRuns
  exact ⟨_, before, after, pod, hRuns, hOrder, hSteps,
    ((hOrder.pod before pod _ after hSteps).account "dev" rfl).1, by simpa using hSecrets⟩

end Launch

end PodWorkspace
