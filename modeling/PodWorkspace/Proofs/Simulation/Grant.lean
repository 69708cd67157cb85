import PodWorkspace.Proofs.Simulation.Completion

/-! What a launch makes of the role binding of its workspace. A binding that is there already is left as
it is, whichever role it grants and to whom; where there is none, one is created that grants the role of
the options to the service account of the options. So the role and the account of a binding are those of
the options with which it was created. -/

namespace PodWorkspace

open Cluster Program Simulation

/-- Whether a binding grants a cluster role to a service account, and to nothing else. -/
structure Cluster.RoleBinding.Grants (b : RoleBinding) (account role «namespace» : String) : Prop where
  role : b.roleRef = ⟨"rbac.authorization.k8s.io", "ClusterRole", role⟩
  subject : ∃ subject, b.subjects = some [subject] ∧ subject.kind = "ServiceAccount" ∧
    subject.name = account ∧ ∀ given, subject.namespace = some given → given = «namespace»

theorem Manifest.grants_roleBinding (w : WorkspaceName) (account role «namespace» : String) :
    (roleBinding w account role «namespace»).Grants account role «namespace» :=
  ⟨rfl, _, rfl, rfl, rfl, nofun⟩

namespace Simulation

variable {around : Surroundings} {s s' : Store} {steps : List (Step interface)} {r : Request}

theorem Store.roleBindings_answer (h : r.changesBindings = false) :
    (s.answer around r).2.roleBindings = s.roleBindings := by
  cases r with
  | createNamespace name =>
    simp only [answer, withNamespace]
    split <;> rfl
  | getPod name => exact (keeps_observePod s name).roleBindings
  | createPod pod =>
    simp only [answer, createPod]
    split <;> rfl
  | podLogs | exec =>
    simp only [answer]
    split <;> rfl
  | createRoleBinding | deleteRoleBinding => cases h
  | _ => rfl

/-- Steps that change no role bindings leave them as they are. -/
theorem Serves.roleBindings_eq (h : Serves around s steps s')
    (hKept : ∀ r a, .call r a ∈ steps → Request.changesBindings r = false) :
    s'.roleBindings = s.roleBindings :=
  h.preserves (P := fun t => t.roleBindings = s.roleBindings) rfl fun _ r a hMem hBindings =>
    (Store.roleBindings_answer (hKept r a hMem)).trans hBindings

end Simulation

namespace Workspace

variable {w : Workspace} {around : Surroundings} {s s' : Store} {steps : List (Step interface)}
  {spec : RunSpec} {account role : String}

theorem binding_of_preparePod {prepared : Manifest.Placement × List String}
    (hAccount : w.options.manifest.serviceAccount = some account)
    (hRole : w.options.manifest.clusterRole = some role)
    (h : Runs (w.preparePod spec) steps (some (.ok prepared))) (hServes : Serves around s steps s') :
    s'.roleBindings.get? w.resource = some (w.bindingAfter account role s) := by
  obtain ⟨accounts, syncing, listing, pullSecret, rfl, hAccounts, hSync, hList, -⟩ :=
    runs_preparePod_ok h
  simp only [ensureServiceAccount, hAccount, hRole] at hAccounts
  obtain ⟨seeing, _, binding, rfl, hSees, hBinds⟩ := runs_andThen_ok.1 hAccounts
  obtain ⟨bound, hServesAccounts, hServesRest⟩ := hServes.split
  obtain ⟨between, hServesSeeing, hServesBinding⟩ := hServesAccounts.split
  obtain ⟨synced, hServesSync, hServesList⟩ := hServesRest.split
  have hSame : w.bindingAfter account role between = w.bindingAfter account role s := by
    rw [bindingAfter, ((seesAccount_of_runs hSees).served hServesSeeing).2]
    rfl
  -- Neither the pull secret nor the list of detection pods has to do with bindings.
  obtain ⟨-, secrets, rfl⟩ := hasPullSecret_of_runs hSync hServesSync
  obtain ⟨-, rfl⟩ := yields_detectionPods hList hServesList
  have hBound := ((seesBinding_of_runs hBinds).served hServesBinding).1
  rwa [hSame] at hBound

end Workspace

namespace Launch

variable {w : Workspace} {l : Launch} {around : Surroundings} {s s' : Store}
  {steps : List (Step interface)} {account role : String}

theorem binding_of_runs (hAccount : w.options.manifest.serviceAccount = some account)
    (hRole : w.options.manifest.clusterRole = some role)
    (hRuns : Runs (l.program w) steps (some (.ok ()))) (hServes : Serves around s steps s') :
    s'.roleBindings.get? w.resource = some (w.bindingAfter account role s) := by
  obtain ⟨opening, preparing, handling, plan, placement, detection, pod, rfl, hBuilds, hReplace⟩ :=
    runs_program_ok hRuns
  rw [List.append_assoc] at hServes
  obtain ⟨opened, hOpening, hRest⟩ := hServes.split
  obtain ⟨prepared, hPreparing, hHandling⟩ := hRest.split
  have hOpened : opened.roleBindings = s.roleBindings :=
    hOpening.roleBindings_eq fun r a hMem => by
      rw [Bool.eq_false_iff]
      intro hChanges
      simpa [l.staysIn_plan hBuilds.planned r a hMem] using
        Request.stage_of_changesBindings hChanges
  have hBound := Workspace.binding_of_preparePod hAccount hRole hBuilds.prepared hPreparing
  obtain ⟨pods, rfl⟩ := hHandling.eq_of_handling (Workspace.staysIn_replacePod hReplace)
  rwa [Workspace.bindingAfter, hOpened] at hBound

/-- A launch that succeeds leaves the workspace with a role binding. It is the one that was there, as it
was, if there was one; otherwise it grants the role of the options to their service account. -/
theorem grants_of_runs_ok (hAccount : w.options.manifest.serviceAccount = some account)
    (hRole : w.options.manifest.clusterRole = some role)
    (hRuns : Runs (l.program w) steps (some (.ok ()))) (hServes : Serves around s steps s') :
    ∃ binding, s'.roleBindings.get? w.resource = some binding ∧
      (∀ existing, s.roleBindings.get? w.resource = some existing → binding = existing) ∧
      (s.roleBindings.get? w.resource = none → binding.Grants account role w.namespace) := by
  refine ⟨_, binding_of_runs hAccount hRole hRuns hServes, fun existing hExisting => ?_,
    fun hNone => ?_⟩
  · rw [Workspace.bindingAfter, hExisting, Option.getD_some]
  · rw [Workspace.bindingAfter, hNone, Option.getD_none]
    exact Manifest.grants_roleBinding w.name account role w.namespace

/-- The workspace when its account is granted a cluster role. -/
def granting (role : String) : Workspace :=
  { Workspace.notes with options := { Workspace.notes.options with
      manifest := { Workspace.notes.options.manifest with clusterRole := some role } } }

/-- A launch that finds no binding. -/
def firstGrant : Followed interface Store Unit :=
  Store.follow {} .trusted ((run (some .notes)).program (granting "edit"))

theorem grants_of_runs_ok_of_first :
    ∃ binding, firstGrant.state.roleBindings.get? (granting "edit").resource = some binding ∧
      binding.Grants "dev" "edit" "team" := by
  have hEnding := Followed.ending_of_succeeds (show firstGrant.succeeds = true by decide +kernel)
  have hRuns : Runs ((run (some .notes)).program (granting "edit")) firstGrant.steps
      (some (.ok ())) := hEnding ▸ Store.runs_follow _ _ _
  obtain ⟨binding, hBinding, -, hGrants⟩ :=
    grants_of_runs_ok rfl rfl hRuns (Store.serves_follow _ _ _)
  exact ⟨binding, hBinding, hGrants rfl⟩

/-- A cluster with the binding that was created when the options named another role. -/
def granted : Store where
  roleBindings := (∅ : Dict RoleBinding).insert (granting "admin").resource
    (Manifest.roleBinding (granting "admin").name "dev" "admin" "team")

/-- A launch in that cluster. -/
def secondGrant : Followed interface Store Unit :=
  granted.follow .trusted ((run (some .notes)).program (granting "edit"))

/-- The account keeps the role that the options do not name any more, and is not granted the other. -/
theorem keeps_stale_grant :
    ∃ binding, Runs ((run (some .notes)).program (granting "edit")) secondGrant.steps (some (.ok ())) ∧
      Serves .trusted granted secondGrant.steps secondGrant.state ∧
      secondGrant.state.roleBindings.get? (granting "edit").resource = some binding ∧
      binding.Grants "dev" "admin" "team" ∧ ¬binding.Grants "dev" "edit" "team" := by
  have hEnding := Followed.ending_of_succeeds (show secondGrant.succeeds = true by decide +kernel)
  have hRuns : Runs ((run (some .notes)).program (granting "edit")) secondGrant.steps
      (some (.ok ())) := hEnding ▸ Store.runs_follow _ _ _
  have hServes : Serves .trusted granted secondGrant.steps secondGrant.state :=
    Store.serves_follow _ _ _
  have hStale : granted.roleBindings.get? (granting "edit").resource =
      some (Manifest.roleBinding (granting "admin").name "dev" "admin" "team") :=
    Dict.get?_insert_self _ _ _
  have hBinding := binding_of_runs rfl rfl hRuns hServes
  rw [Workspace.bindingAfter, hStale, Option.getD_some] at hBinding
  refine ⟨_, hRuns, hServes, hBinding, Manifest.grants_roleBinding _ _ _ _, fun hOther => ?_⟩
  have hRole : "admin" = "edit" := congrArg (·.name) hOther.role
  exact absurd hRole (by decide)

end Launch

end PodWorkspace
