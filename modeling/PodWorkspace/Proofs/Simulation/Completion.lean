import PodWorkspace.Proofs.Manifest.WorkspacePod
import PodWorkspace.Proofs.Simulation.Lasting
import PodWorkspace.Proofs.Simulation.Placement
import PodWorkspace.Proofs.Simulation.Record
import PodWorkspace.Proofs.Simulation.Yields
import PodWorkspace.Proofs.Workspace.Account
import PodWorkspace.Proofs.Workspace.Handling

/-! What a launch leaves behind in a simulated cluster when it succeeds. Each of its parts finds the
object that it sees to or creates it, so afterwards all of them are there: the namespace, a volume
claim that gives the plan of the launch, the service account and the role binding, the pull secret
with the credentials, and the pod with the options. -/

namespace PodWorkspace

open Cluster Program Simulation

namespace Simulation

variable {around : Surroundings} {s s' : Store} {steps : List (Step interface)}

namespace Store

variable {r : Request} {name : String}

/-- Nothing takes a namespace away. -/
theorem contains_namespaces_answer (h : s.namespaces.contains name = true) :
    (s.answer around r).2.namespaces.contains name = true := by
  cases r with
  | createNamespace other =>
    simp only [answer, withNamespace]
    split
    · exact h
    · simp [List.contains_iff_mem.1 h]
  | getPod pod => rwa [answer, (keeps_observePod s pod).namespaces]
  | createPod pod =>
    simp only [answer, createPod]
    split <;> exact h
  | podLogs | exec =>
    simp only [answer]
    split <;> exact h
  | _ => exact h

/-- The handling of pods changes nothing else. -/
theorem answer_of_handling (h : r.stage = some .handling) :
    ∃ pods, (s.answer around r).2 = { s with pods } := by
  cases r with
  | getPod name =>
    obtain hNone | hLost | ⟨stored, later, answer, -, hShown⟩ := observePod_cases s name
    · exact ⟨s.pods, congrArg Prod.snd hNone⟩
    · exact ⟨_, congrArg Prod.snd hLost⟩
    · exact ⟨_, congrArg Prod.snd hShown⟩
  | createPod pod =>
    simp only [answer, createPod]
    split
    · exact ⟨s.pods, rfl⟩
    · exact ⟨_, rfl⟩
  | deletePod | deletePodAndWait | forceDeletePods => exact ⟨_, rfl⟩
  | _ => cases h

end Store

theorem Serves.eq_of_handling (h : Serves around s steps s')
    (hStage : ∀ r a, .call r a ∈ steps → Request.stage r = some .handling) :
    ∃ pods, s' = { s with pods } := by
  refine h.preserves (P := fun t => ∃ pods, t = { s with pods }) ⟨s.pods, rfl⟩ ?_
  rintro _ r a hMem ⟨pods, rfl⟩
  exact Store.answer_of_handling (hStage r a hMem)

end Simulation

namespace Workspace

variable {w : Workspace} {around : Surroundings} {s s' : Store} {steps : List (Step interface)}
  {spec : RunSpec} {pod : Pod} {detection : List String}

/-! ### The namespace -/

/-- Whether the namespace is there when it is wanted. -/
def HasNamespace (w : Workspace) (s : Store) : Prop :=
  (!w.options.manifest.createNamespace || w.namespace.isEmpty) = false →
    s.namespaces.contains w.namespace = true

/-- A store with the namespace, when it is wanted. -/
def named (w : Workspace) (s : Store) : Store :=
  if !w.options.manifest.createNamespace || w.namespace.isEmpty then s
  else s.withNamespace w.namespace

theorem hasNamespace_named (w : Workspace) (s : Store) : w.HasNamespace (w.named s) := by
  intro hWanted
  simp only [named, hWanted, Bool.false_eq_true, if_false, Store.withNamespace]
  split
  · assumption
  · simp

theorem named_of_hasNamespace (h : w.HasNamespace s) : w.named s = s := by
  unfold named
  split
  · rfl
  · rename_i hWanted
    rw [Store.withNamespace, if_pos (h (by simpa using hWanted))]

theorem yields_ensureNamespace : Yields around s w.ensureNamespace () (w.named s) := by
  unfold ensureNamespace named
  split
  · exact yields_done ()
  · exact (yields_note _).andThen (Yields.andThen (yields_request rfl).attempt (yields_done ()))

theorem HasNamespace.of_serves (h : w.HasNamespace s) (hServes : Serves around s steps s') :
    w.HasNamespace s' := fun hWanted =>
  hServes.preserves (P := fun t => t.namespaces.contains w.namespace = true) (h hWanted)
    fun _ _ _ _ => Store.contains_namespaces_answer

/-! ### The service account and the role binding -/

/-- Whether the account and its role binding are there when they are wanted. -/
def HasAccess (w : Workspace) (s : Store) : Prop :=
  ∀ account, w.options.manifest.serviceAccount = some account →
    (s.serviceAccounts.get? account).isSome = true ∧
      ∀ role, w.options.manifest.clusterRole = some role →
        (s.roleBindings.get? w.resource).isSome = true

/-- The binding of a workspace once it is seen to. -/
def bindingAfter (w : Workspace) (account role : String) (s : Store) : RoleBinding :=
  (s.roleBindings.get? w.resource).getD (Manifest.roleBinding w.name account role w.namespace)

theorem SeesAccount.served {account : String} (h : w.SeesAccount account steps)
    (hServes : Serves around s steps s') :
    (s'.serviceAccounts.get? account).isSome = true ∧ s'.roleBindings = s.roleBindings := by
  cases h with
  | @found existing =>
    have hFound : some existing = s.serviceAccounts.get? account := Except.ok.inj hServes.eq_answer
    obtain rfl := hServes.rest.eq_of_nil
    exact ⟨hFound ▸ rfl, rfl⟩
  | created =>
    obtain rfl := hServes.rest.rest.eq_of_nil
    exact ⟨Option.isSome_iff_exists.2 ⟨_, Dict.get?_insert_self _ _ _⟩, rfl⟩

theorem SeesBinding.served {account role : String} (h : w.SeesBinding account role steps)
    (hServes : Serves around s steps s') :
    s'.roleBindings.get? w.resource = some (w.bindingAfter account role s) ∧
      s'.serviceAccounts = s.serviceAccounts := by
  have hLook {found : Option RoleBinding} {rest : List (Step interface)}
      (hServes : Serves around s
        (.call (.getRoleBinding w.resource) (some (.ok found)) :: rest) s') :
      s.roleBindings.get? w.resource = found := (Except.ok.inj hServes.eq_answer).symm
  rw [bindingAfter]
  cases h with
  | found =>
    have hFound := hLook hServes
    obtain rfl := hServes.rest.eq_of_nil
    rw [hFound]
    exact ⟨rfl, rfl⟩
  | created =>
    have hNone := hLook hServes
    obtain rfl := hServes.rest.rest.eq_of_nil
    rw [hNone]
    exact ⟨Dict.get?_insert_self _ _ _, rfl⟩

theorem hasAccess_of_runs (h : Runs w.ensureServiceAccount steps (some (.ok ())))
    (hServes : Serves around s steps s') : w.HasAccess s' := by
  intro account hAccount
  simp only [ensureServiceAccount, hAccount] at h
  obtain ⟨seeing, _, rest, rfl, hSees, hRest⟩ := runs_andThen_ok.1 h
  obtain ⟨between, hSeeing, hBinding⟩ := hServes.split
  have hThere := ((seesAccount_of_runs hSees).served hSeeing).1
  cases hRole : w.options.manifest.clusterRole with
  | none =>
    simp only [hRole] at hRest
    obtain ⟨rfl, -⟩ := runs_done.1 hRest
    obtain rfl := hBinding.eq_of_nil
    exact ⟨hThere, nofun⟩
  | some role =>
    simp only [hRole] at hRest
    obtain ⟨hBound, hSame⟩ := (seesBinding_of_runs hRest).served hBinding
    exact ⟨hSame ▸ hThere, fun _ _ => Option.isSome_of_eq_some hBound⟩

/-! ### The pull secret -/

/-- Whether the pull secret holds the credentials for the image of a specification, when it is wanted
and there are some. -/
def HasPullSecret (w : Workspace) (around : Surroundings) (spec : RunSpec) (s : Store) : Prop :=
  w.options.manifest.pullSecretsEnabled = true →
    ∃ registry, Registry.imageRegistry (w.setting.image spec) = .ok registry ∧
      ∀ credentials, PullSecret.usable (Store.lookUp around registry) = some credentials →
        ∃ secret, s.secrets.get? w.name.pullSecret = some secret ∧
          PullSecret.content? secret = some (PullSecret.contentFor registry credentials)

theorem hasPullSecret_of_runs {pullSecret : Option String}
    (h : Runs (w.ensurePullSecret spec) steps (some (.ok pullSecret)))
    (hServes : Serves around s steps s') :
    w.HasPullSecret around spec s' ∧ ∃ secrets, s' = { s with secrets } := by
  obtain ⟨hDisabled, rfl, -⟩ | ⟨-, outcome, hSyncs, -⟩ := runs_ensurePullSecret_ok h
  · obtain rfl := hServes.eq_of_nil
    exact ⟨fun hEnabled => by simp [hDisabled] at hEnabled, _, rfl⟩
  -- In all ways but the first the credentials are the ones that the lookup has given.
  have hLookUp {registry : String} {answer : Except Failure (Option Registry.Credentials)}
      {rest : List (Step interface)}
      (hServes : Serves around s (.call (.lookUp registry) (some answer) :: rest) s') :
      answer = Store.lookUp around registry := hServes.eq_answer
  cases hSyncs with
  | unusable hLooksUp =>
    obtain rfl := hLookUp hServes
    obtain rfl := hServes.rest.eq_of_nil
    refine ⟨fun _ => ⟨_, hLooksUp.registry, fun credentials hUsable => ?_⟩, _, rfl⟩
    simp [hLooksUp.usable] at hUsable
  | @kept registry answer credentials existing hLooksUp hContent =>
    obtain rfl := hLookUp hServes
    have hFound : some existing = s.secrets.get? w.name.pullSecret :=
      Except.ok.inj hServes.rest.eq_answer
    obtain rfl := hServes.rest.rest.eq_of_nil
    refine ⟨fun _ => ⟨_, hLooksUp.registry, fun other hUsable => ?_⟩, _, rfl⟩
    obtain rfl : credentials = other := by simpa [hLooksUp.usable] using hUsable
    exact ⟨existing, hFound.symm, hContent⟩
  | @created registry answer credentials hLooksUp =>
    obtain rfl := hLookUp hServes
    obtain rfl := hServes.rest.rest.rest.eq_of_nil
    refine ⟨fun _ => ⟨_, hLooksUp.registry, fun other hUsable => ?_⟩, _, rfl⟩
    obtain rfl : credentials = other := by simpa [hLooksUp.usable] using hUsable
    exact ⟨_, Dict.get?_insert_self _ _ _, rfl⟩
  | @replaced registry answer credentials existing hLooksUp =>
    obtain rfl := hLookUp hServes
    obtain rfl := hServes.rest.rest.rest.rest.eq_of_nil
    refine ⟨fun _ => ⟨_, hLooksUp.registry, fun other hUsable => ?_⟩, _, rfl⟩
    obtain rfl : credentials = other := by simpa [hLooksUp.usable] using hUsable
    exact ⟨_, Dict.get?_insert_self _ _ _, rfl⟩

theorem yields_detectionPods :
    Yields around s w.detectionPods (s.podsMatching w.name.detectionSelector) s :=
  Yields.andThen (yields_request rfl).attempt (yields_done _)

/-- What the pod depends on is there once it is prepared. -/
theorem prepared_of_runs {at_ : Manifest.Placement}
    (h : Runs (w.preparePod spec) steps (some (.ok (at_, detection))))
    (hServes : Serves around s steps s') : w.HasAccess s' ∧ w.HasPullSecret around spec s' := by
  obtain ⟨accounts, syncing, listing, pullSecret, rfl, hAccounts, hSync, hList, -⟩ :=
    runs_preparePod_ok h
  obtain ⟨afterAccounts, hServesAccounts, hServesRest⟩ := hServes.split
  obtain ⟨afterSync, hServesSync, hServesList⟩ := hServesRest.split
  have hAccess : w.HasAccess afterAccounts := hasAccess_of_runs hAccounts hServesAccounts
  obtain ⟨hSecret, secrets, rfl⟩ := hasPullSecret_of_runs hSync hServesSync
  obtain ⟨-, rfl⟩ := yields_detectionPods hList hServesList
  exact ⟨hAccess, hSecret⟩

/-! ### The pod -/

/-- Whether the pod, if there is one, carries the options and lasts. -/
def KeepsPod (w : Workspace) (s : Store) : Prop :=
  ∀ stored, s.pods.get? w.resource = some stored →
    stored.pod.Carries w.options.manifest ∧ Lasting stored.phases

theorem name_of_podOf {plan : Plan} {placement : Manifest.Placement}
    (h : (w.podOf plan placement).outcome = .ok pod) : pod.name = w.resource := by
  obtain ⟨bare, hBare, rfl⟩ := Manifest.workspacePod_ok.1 h
  obtain ⟨workspace, -, hBare⟩ := Logged.outcome_bind_eq_ok.1 hBare
  obtain ⟨labels, -, hBare⟩ := Logged.outcome_bind_eq_ok.1 hBare
  obtain ⟨nodeSelector, -, hBare⟩ := Logged.outcome_bind_eq_ok.1 hBare
  obtain ⟨resources, -, hBare⟩ := Logged.outcome_bind_eq_ok.1 hBare
  obtain ⟨_, -, hBare⟩ := Logged.outcome_bind_eq_ok.1 hBare
  obtain ⟨inits, -, hBare⟩ := Logged.outcome_bind_eq_ok.1 hBare
  obtain rfl := Except.ok.inj hBare
  rfl

/-- A pod that carries the options does so for as long as it is there. -/
theorem KeepsPod.answer {r : Request} (h : w.KeepsPod s) (hAftercare : w.IsAftercare r) :
    w.KeepsPod (s.answer around r).2 := by
  intro stored hStored
  obtain (rfl | rfl) | rfl := hAftercare
  · cases hBefore : s.pods.get? w.resource with
    | none => simp [Store.answer, Store.observePod, hBefore] at hStored
    | some before =>
      obtain ⟨hCarries, hLasting⟩ := h before hBefore
      obtain ⟨shown, later, hLook, -, hLater⟩ := Store.observePod_of_lasting hBefore hLasting
      rw [Store.answer, hLook, Dict.get?_insert_self] at hStored
      cases hStored
      exact ⟨hCarries, hLater⟩
  · simp [Store.answer, Dict.get?_erase] at hStored
  · exact h stored (Dict.get?_of_filter hStored)

theorem keepsPod_of_createPod (hName : pod.name = w.resource) (hCreated : Lasting around.phases)
    (h : Runs (w.createPod pod detection) steps (some (.ok ())))
    (hServes : Serves around s steps s') : w.KeepsPod s' := by
  obtain ⟨rest, rfl, hSettle⟩ := runs_createPod_ok h
  have hAnswer : Except.ok () = (s.createPod around (w.stamped pod)).1 := hServes.eq_answer
  have hStart : w.KeepsPod (s.createPod around (w.stamped pod)).2 := by
    intro stored hStored
    unfold Store.createPod at hStored hAnswer
    split at hStored
    · rename_i hTaken
      simp [hTaken] at hAnswer
    · have hSame : (w.stamped pod).name = w.resource := hName
      rw [hSame, Dict.get?_insert_self] at hStored
      cases hStored
      exact ⟨w.carries_stamped pod, hCreated⟩
  exact hServes.rest.preserves hStart fun t r a hMem hKeeps =>
    hKeeps.answer (asksOnly_settlePod hSettle r a hMem)

/-- The pod that a launch leaves behind carries the options. -/
theorem keepsPod_of_replaces (hName : pod.name = w.resource) (hCreated : Lasting around.phases)
    (hStored : ∀ stored, s.pods.get? w.resource = some stored → Lasting stored.phases)
    (h : w.Replaces pod detection steps (some (.ok ()))) (hServes : Serves around s steps s') :
    w.KeepsPod s' := by
  cases h with
  | unseen _ hEnding => exact absurd rfl hEnding
  | undeleted _ _ hEnding => exact absurd rfl hEnding
  | absent hCreate => exact keepsPod_of_createPod hName hCreated hCreate hServes.rest
  | replaced _ hCreate => exact keepsPod_of_createPod hName hCreated hCreate hServes.rest.rest
  | @current existing hCarries =>
    have hAnswer : Except.ok (some existing) = (s.observePod w.resource).1 := hServes.eq_answer
    obtain rfl := hServes.rest.eq_of_nil
    cases hBefore : s.pods.get? w.resource with
    | none => simp [Store.observePod, hBefore] at hAnswer
    | some before =>
      obtain ⟨shown, later, hLook, hSame, hLater⟩ :=
        Store.observePod_of_lasting hBefore (hStored before hBefore)
      rw [hLook] at hAnswer
      cases hAnswer
      obtain ⟨raw, hRaw, hRead⟩ := hCarries
      intro stored hAfter
      rw [Store.answer, hLook, Dict.get?_insert_self] at hAfter
      cases hAfter
      refine ⟨⟨raw, ?_, hRead⟩, hLater⟩
      rw [← hRaw, ObjectMeta.annotation?, ObjectMeta.annotation?, hSame]

end Workspace

namespace Launch

variable {w : Workspace} {l : Launch} {around : Surroundings} {s s' : Store}
  {steps : List (Step interface)} {plan : Workspace.Plan}

/-- Whether all that a launch with a plan sees to is there. -/
structure Completed (l : Launch) (w : Workspace) (around : Surroundings) (plan : Workspace.Plan)
    (s : Store) : Prop where
  named : ∀ given, l = .run given → w.HasNamespace s
  planned : ∃ claim, s.claims.get? w.resource = some claim ∧ w.StoredPlan l.given claim plan
  access : w.HasAccess s
  pullSecret : w.HasPullSecret around plan.spec s
  pod : w.KeepsPod s

theorem hasNamespace_of_plan {given : Option RunSpec}
    (h : Runs (w.runPlan given) steps (some (.ok plan))) (hServes : Serves around s steps s') :
    w.HasNamespace s' := by
  obtain ⟨naming, _, rest, rfl, hNaming, -⟩ := runs_andThen_ok.1 h
  obtain ⟨between, hServesNaming, hServesRest⟩ := hServes.split
  obtain ⟨-, rfl⟩ := Workspace.yields_ensureNamespace hNaming hServesNaming
  exact (w.hasNamespace_named s).of_serves hServesRest

/-- Once a plan is found the claim gives it again, as that of a workspace which is not new. -/
theorem planned_of_runs (h : Runs (l.plan w) steps (some (.ok plan)))
    (hServes : Serves around s steps s') :
    ∃ claim, s'.claims.get? w.resource = some claim ∧
      w.StoredPlan l.given claim { plan with fresh := false } := by
  obtain ⟨naming, -, ⟨claim, rfl, hPlan⟩ | ⟨claim, rfl, hPlan⟩⟩ := runs_plan_ok h
  · obtain ⟨between, -, hFound⟩ := hServes.split
    have hClaim : some claim = between.claims.get? w.resource := Except.ok.inj hFound.eq_answer
    obtain rfl := hFound.rest.eq_of_nil
    exact ⟨claim, hClaim.symm, hPlan.spec, hPlan.template, rfl, hPlan.fresh ▸ hPlan.valid⟩
  · obtain ⟨stored, hStored, hRecord⟩ := records_of_plan h hPlan.fresh hServes
    obtain ⟨pod, hPod⟩ := hPlan.valid
    refine ⟨stored, hStored, ⟨_, hRecord, ?_⟩, hPlan.template, rfl, _,
      Manifest.workspacePod_false hPod⟩
    rw [hPlan.given]
    rfl

/-- A launch that succeeds has completed all that it sees to. -/
theorem completed_of_runs (h : Runs (l.program w) steps (some (.ok ())))
    (hServes : Serves around s steps s') (hCreated : Lasting around.phases)
    (hStored : ∀ stored, s.pods.get? w.resource = some stored → Lasting stored.phases) :
    ∃ plan, l.Completed w around plan s' := by
  obtain ⟨opening, preparing, handling, plan, placement, detection, pod, rfl, hBuilds, hReplace⟩ :=
    runs_program_ok h
  rw [List.append_assoc] at hServes
  obtain ⟨opened, hOpening, hRest⟩ := hServes.split
  have hClaims : s'.claims = opened.claims :=
    hRest.claims_eq fun r a => changesClaims_eq_false hBuilds hReplace
  obtain ⟨prepared, hPreparing, hHandling⟩ := hRest.split
  obtain ⟨claim, hClaim, hPlan⟩ := planned_of_runs hBuilds.planned hOpening
  obtain ⟨hAccess, hSecret⟩ := Workspace.prepared_of_runs hBuilds.prepared hPreparing
  have hPrepares := Workspace.staysIn_preparePod _ hBuilds.prepared
  have hPods : prepared.pods = s.pods := by
    rw [hPreparing.pods_eq fun r a hMem => .inr (hPrepares r a hMem),
      hOpening.pods_eq fun r a hMem => .inl (l.staysIn_plan hBuilds.planned r a hMem)]
  have hPod : w.KeepsPod s' :=
    Workspace.keepsPod_of_replaces (Workspace.name_of_podOf hBuilds.built) hCreated
      (hPods ▸ hStored) (Workspace.replaces_of_runs hReplace) hHandling
  -- The handling of the pod leaves alone what was seen to before it.
  obtain ⟨pods, rfl⟩ := hHandling.eq_of_handling (Workspace.staysIn_replacePod hReplace)
  refine ⟨{ plan with fresh := false }, {
    named := fun given hRun => ?_
    planned := ⟨claim, hClaims ▸ hClaim, hPlan⟩
    access := hAccess
    pullSecret := hSecret
    pod := hPod }⟩
  subst hRun
  exact (hasNamespace_of_plan hBuilds.planned hOpening).of_serves hRest

end Launch

end PodWorkspace
