import PodWorkspace.Proofs.Simulation.Completion
import PodWorkspace.Proofs.Simulation.PullSecret
import PodWorkspace.Proofs.Workspace.Refusal

/-! What a launch does when it is repeated. Where all that it sees to is there already each of its
parts finds its object and leaves it as it is, so the same launch succeeds again and no object in the
cluster is another one after it. -/

namespace PodWorkspace

open Cluster Program Simulation

namespace Workspace

variable {w : Workspace} {around : Surroundings} {s : Store} {spec : RunSpec} {plan : Plan}

theorem yields_findClaim {claim : VolumeClaim} {record : WorkspaceRecord}
    (hClaim : s.claims.get? w.resource = some claim) (hRecord : w.recordOf claim = .ok record) :
    Yields around s w.findClaim (some (claim, record)) s :=
  Yields.andThen (yields_request (Prod.ext (congrArg Except.ok hClaim) rfl))
    ((yields_ofExcept hRecord).andThen (yields_done _))

/-- A plan that was found once is found again. -/
theorem yields_storedPlan {given : Option RunSpec} {record : WorkspaceRecord}
    (hSpec : plan.spec = given.getD record.spec) (hTemplate : w.template = .ok plan.template)
    (hFresh : plan.fresh = false) (hValid : ∃ pod, (w.podOf plan {}).outcome = .ok pod) :
    Yields around s (w.storedPlan given record) plan s := by
  have hPlan : plan = ⟨given.getD record.spec, plan.template, false⟩ := by
    rw [← hSpec, ← hFresh]
  obtain ⟨pod, hPod⟩ := hValid
  have hRead : Yields around s w.podTemplate plan.template s :=
    yields_of_silent fun _ _ hRun => hTemplate ▸ runs_podTemplate.1 hRun
  have hBuilds : Yields around s (w.validatePod plan) () s :=
    yields_of_silent fun _ _ hRun => by simpa [hPod, Except.map] using runs_validatePod.1 hRun
  rw [hPlan] at hBuilds ⊢
  exact hRead.andThen (hBuilds.andThen (yields_done _))

theorem yields_ensureAccount {account : String}
    (h : (s.serviceAccounts.get? account).isSome = true) :
    Yields around s (w.ensureAccount account) () s := by
  obtain ⟨existing, hFound⟩ := Option.isSome_iff_exists.1 h
  exact Yields.andThen (yields_request (Prod.ext (congrArg Except.ok hFound) rfl)) (yields_note _)

theorem yields_ensureRoleBinding {account role : String}
    (h : (s.roleBindings.get? w.resource).isSome = true) :
    Yields around s (w.ensureRoleBinding account role) () s := by
  obtain ⟨existing, hFound⟩ := Option.isSome_iff_exists.1 h
  exact Yields.andThen (yields_request (Prod.ext (congrArg Except.ok hFound) rfl)) (yields_note _)

theorem yields_ensureServiceAccount (h : w.HasAccess s) :
    Yields around s w.ensureServiceAccount () s := by
  unfold ensureServiceAccount
  split
  · exact yields_done ()
  · rename_i account hAccount
    obtain ⟨hThere, hBound⟩ := h account hAccount
    refine (yields_ensureAccount hThere).andThen ?_
    split
    · exact yields_done ()
    · rename_i role hRole
      exact yields_ensureRoleBinding (hBound role hRole)

theorem yields_ensurePullSecret (h : w.HasPullSecret around spec s) :
    ∃ pullSecret, Yields around s (w.ensurePullSecret spec) pullSecret s := by
  unfold ensurePullSecret
  split
  · rename_i hEnabled
    obtain ⟨registry, hRegistry, hSecret⟩ := h hEnabled
    have hEnsure : ∃ outcome, Yields around s
        (PullSecret.ensure w.name.pullSecret w.namespace (w.setting.image spec)) outcome s := by
      cases hUsable : PullSecret.usable (Store.lookUp around registry) with
      | none =>
        refine ⟨.noCredentials, (yields_note _).andThen ((yields_ofExcept hRegistry).andThen ?_)⟩
        exact (PullSecret.yields_usableCredentials registry).andThen (by rw [hUsable]; exact yields_done _)
      | some credentials =>
        have hHeld := Option.bind_eq_some_iff.2 (hSecret credentials hUsable)
        exact ⟨.unchanged, PullSecret.yields_ensure_unchanged hRegistry hUsable hHeld⟩
    obtain ⟨outcome, hOutcome⟩ := hEnsure
    exact ⟨_, (hOutcome.cancellable _).andThen (yields_done _)⟩
  · exact ⟨_, yields_done _⟩

theorem yields_preparePod (hAccess : w.HasAccess s) (hSecret : w.HasPullSecret around spec s) :
    ∃ prepared, Yields around s (w.preparePod spec) prepared s := by
  obtain ⟨pullSecret, hPullSecret⟩ := yields_ensurePullSecret hSecret
  have hPlace : Yields around s (w.affinityWorkspace (s.podsMatching w.name.detectionSelector)) _ s :=
    yields_of_silent fun _ _ => runs_affinityWorkspace.1
  exact ⟨_, (yields_ensureServiceAccount hAccess).andThen (hPullSecret.andThen
    (yields_detectionPods.andThen (hPlace.andThen (yields_done _))))⟩

/-- A pod that carries the options is looked at once and left alone. -/
theorem yields_replacePod {pod : Pod} {detection : List String} (hPod : w.KeepsPod s)
    (hThere : (s.pods.get? w.resource).isSome = true) :
    Yields around s (w.replacePod pod detection) () (s.observePod w.resource).2 := by
  obtain ⟨stored, hStored⟩ := Option.isSome_iff_exists.1 hThere
  obtain ⟨⟨raw, hRaw, hRead⟩, hLasting⟩ := hPod stored hStored
  obtain ⟨shown, later, hLook, hSame, -⟩ := Store.observePod_of_lasting hStored hLasting
  have hCarries : shown.Carries w.options.manifest :=
    ⟨raw, by rw [← hRaw, ObjectMeta.annotation?, ObjectMeta.annotation?, hSame], hRead⟩
  have hCurrent {t : Store} : Yields around t (w.isCurrent shown) true t :=
    yields_of_silent fun _ _ hRun => by
      obtain ⟨hSteps, current, rfl, hIff⟩ := runs_isCurrent.1 hRun
      exact ⟨hSteps, by rw [hIff.2 hCarries]⟩
  have hGet : Yields around s (request "get pod" (.getPod w.resource)) (some shown)
      (s.observePod w.resource).2 :=
    yields_request (Prod.ext (congrArg (·.1) hLook :) rfl)
  exact hGet.andThen (hCurrent.andThen (yields_tell w _ _ _))

end Workspace

namespace Launch

variable {w : Workspace} {l : Launch} {around around' : Surroundings} {s s' : Store}
  {steps : List (Step interface)} {plan : Workspace.Plan}

theorem Completed.yields_plan (h : l.Completed w around plan s) :
    Yields around' s (l.plan w) plan s := by
  obtain ⟨claim, hClaim, hPlan⟩ := h.planned
  obtain ⟨record, hRecord, hSpec⟩ := hPlan.spec
  have hFind : Yields around' s w.findClaim (some (claim, record)) s :=
    Workspace.yields_findClaim hClaim hRecord
  have hStored : Yields around' s (w.storedPlan l.given record) plan s :=
    Workspace.yields_storedPlan hSpec hPlan.template hPlan.fresh hPlan.valid
  cases l with
  | run given =>
    have hNamed : Yields around' s w.ensureNamespace () s := by
      have hNaming : Yields around' s w.ensureNamespace () (w.named s) :=
        Workspace.yields_ensureNamespace
      rwa [Workspace.named_of_hasNamespace (h.named given rfl)] at hNaming
    exact hNamed.andThen (hFind.andThen hStored)
  | start => exact hFind.andThen hStored

/-- A launch that finds all that it sees to only looks at its pod. -/
theorem Completed.yields_program (h : l.Completed w around plan s)
    (hThere : (s.pods.get? w.resource).isSome = true) :
    Yields around s (l.program w) () (s.observePod w.resource).2 := by
  obtain ⟨⟨placement, detection⟩, hPrepare⟩ := Workspace.yields_preparePod h.access h.pullSecret
  obtain ⟨claim, -, hPlan⟩ := h.planned
  obtain ⟨pod, hValid⟩ := hPlan.valid
  have hPod := Workspace.podOf_placed hValid placement
  rw [program_eq_plan]
  exact h.yields_plan.andThen (hPrepare.andThen ((yields_ofLogged hPod).andThen
    (Workspace.yields_replacePod h.pod hThere)))

/-- What is there for one launch is there for the next, as long as the credentials are the same. -/
theorem Completed.congr (h : l.Completed w around plan s)
    (hCredentials : around'.credentials = around.credentials) : l.Completed w around' plan s where
  named := h.named
  planned := h.planned
  access := h.access
  pullSecret hEnabled := by
    simpa only [Store.lookUp, hCredentials] using h.pullSecret hEnabled
  pod := h.pod

/-- What is there for a launch does not depend on any other pod than its own. -/
theorem Completed.of_pods (h : l.Completed w around plan s) {pods : Dict StoredPod}
    (hPod : pods.get? w.resource = s.pods.get? w.resource) :
    l.Completed w around plan { s with pods } where
  named := h.named
  planned := h.planned
  access := h.access
  pullSecret := h.pullSecret
  pod stored hStored := h.pod stored (hPod ▸ hStored)

/-- A launch that has succeeded and has left its pod behind succeeds again, with the same credentials,
and leaves all objects as they are. The pod that was there before it and the pods that are created in
its world are lasting; in what state they show themselves does not matter. -/
theorem objects_eq_of_repeated (hRuns : Runs (l.program w) steps (some (.ok ())))
    (hServes : Serves around s steps s') (hCreated : Lasting around.phases)
    (hStored : ∀ stored, s.pods.get? w.resource = some stored → Lasting stored.phases)
    (hPod : (s'.pods.get? w.resource).isSome = true)
    (hCredentials : around'.credentials = around.credentials) :
    (∃ again s'', Runs (l.program w) again (some (.ok ())) ∧ Serves around' s' again s'') ∧
      ∀ again ending s'', Runs (l.program w) again ending → Serves around' s' again s'' →
        ending = some (.ok ()) ∧ s''.objects = s'.objects := by
  obtain ⟨plan, hCompleted⟩ := completed_of_runs hRuns hServes hCreated hStored
  have hYields : Yields around' s' (l.program w) () (s'.observePod w.resource).2 :=
    (hCompleted.congr hCredentials).yields_program hPod
  obtain ⟨again, hAgain, hAgainServes⟩ := hYields.exists_run
  refine ⟨⟨again, _, hAgain, hAgainServes⟩, fun again ending s'' hRunsAgain hServesAgain => ?_⟩
  obtain ⟨rfl, rfl⟩ := hYields hRunsAgain hServesAgain
  obtain ⟨stored, hFound⟩ := Option.isSome_iff_exists.1 hPod
  exact ⟨rfl, Store.objects_observePod hFound (hCompleted.pod stored hFound).2⟩

theorem lasting_trusted : Lasting Surroundings.trusted.phases := by
  intro phase hMem
  rw [List.mem_singleton.1 hMem]
  rfl

/-- A launch that replaces a pod which has finished. -/
def renewed : Followed interface Store Unit :=
  Store.finished.follow .trusted ((run (some .notes)).program .notes)

/-- It creates its secret and its pod, and when it is repeated it leaves them alone. -/
theorem objects_eq_of_repeated_of_renewed :
    ∃ again s'', (∃ pod, .call (.createPod pod) (some (.ok ())) ∈ renewed.steps) ∧
      Runs ((run (some .notes)).program .notes) again (some (.ok ())) ∧
      Serves .trusted renewed.state again s'' ∧ s''.objects = renewed.state.objects := by
  have hRenewed : (renewed.succeeds && (firstPod? renewed.steps).isSome &&
      (renewed.state.pods.get? Workspace.notes.resource).isSome) = true := by decide +kernel
  simp only [Bool.and_eq_true] at hRenewed
  obtain ⟨⟨hSucceeds, hFirst⟩, hThere⟩ := hRenewed
  have hEnding := Followed.ending_of_succeeds hSucceeds
  have hRuns : Runs ((run (some .notes)).program .notes) renewed.steps (some (.ok ())) :=
    hEnding ▸ Store.runs_follow _ _ _
  have hServes : Serves .trusted .finished renewed.steps renewed.state := Store.serves_follow _ _ _
  obtain ⟨pod, hPod⟩ := Option.isSome_iff_exists.1 hFirst
  have hStored (stored : StoredPod)
      (hFound : Store.finished.pods.get? Workspace.notes.resource = some stored) :
      Lasting stored.phases := by
    rw [Store.finished, Dict.get?_insert_self] at hFound
    cases hFound
    intro phase hMem
    rw [List.mem_singleton.1 hMem]
    rfl
  obtain ⟨⟨again, s'', hAgain, hAgainServes⟩, hAll⟩ :=
    objects_eq_of_repeated hRuns hServes lasting_trusted hStored hThere rfl
  exact ⟨again, s'', ⟨pod, mem_of_firstPod hPod⟩, hAgain, hAgainServes,
    (hAll again _ s'' hAgain hAgainServes).2⟩

end Launch

end PodWorkspace
