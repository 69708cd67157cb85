import PodWorkspace.Proofs.Program.Failures
import PodWorkspace.Proofs.Workspace.Account
import PodWorkspace.Proofs.Workspace.Handling
import PodWorkspace.Proofs.Workspace.Validation

/-! What a launch has done when it refuses its input. In a cluster that does all it is asked, a launch
fails on its input before it creates or deletes anything, with one exception: the reference of an
image is looked at only when the pull secret is seen to, after the volume claim and the service
account. -/

namespace PodWorkspace

open Cluster Program

/-! ### A cluster that does all it is asked -/

/-- A step that goes well in the cluster. The lookup of credentials is not a matter of the cluster and
may fail. -/
inductive IsServed : Step interface → Prop
  | answered {r : Request} (a : r.Answer) : IsServed (.call r (some (.ok a)))
  | notLookedUp {r : Request} (f : Failure) (hLookUp : r.isLookUp = true) :
      IsServed (.call r (some (.error f)))
  | clock (now : Duration) : IsServed (.clock now)
  | slept (till : Duration) : IsServed (.sleep till true)

instance : DecidablePred IsServed
  | .call _ (some (.ok a)) => isTrue (.answered a)
  | .call r (some (.error f)) =>
    if h : r.isLookUp = true then isTrue (.notLookedUp f h)
    else isFalse (by rintro ⟨⟩; contradiction)
  | .call _ none => isFalse nofun
  | .clock now => isTrue (.clock now)
  | .sleep till true => isTrue (.slept till)
  | .sleep _ false => isFalse nofun

theorem IsServed.exists_answer {r : Request} {answer : Result r.Answer}
    (h : IsServed (.call r answer)) (hLookUp : r.isLookUp = false) : ∃ a, answer = some (.ok a) := by
  cases h with
  | answered a => exact ⟨a, rfl⟩
  | notLookedUp f hOther => simp [hLookUp] at hOther

/-- A step that does not find an object which a launch then creates. -/
inductive IsMiss : Step interface → Prop
  | claim (name : String) : IsMiss (.call (.getClaim name) (some (.ok none)))
  | account (name : String) : IsMiss (.call (.getServiceAccount name) (some (.ok none)))
  | binding (name : String) : IsMiss (.call (.getRoleBinding name) (some (.ok none)))

/-- Whether nothing is found missing in some steps. -/
def FindsAll (steps : List (Step interface)) : Prop := ∀ step ∈ steps, ¬IsMiss step

/-- Whether nothing is created or deleted in some steps, the namespace aside. -/
def ChangesNothing (steps : List (Step interface)) : Prop :=
  ∀ r a, .call r a ∈ steps → Request.changesObjects r = true → ∃ name, r = .createNamespace name

/-- Whether a failure is about the reference of an image. -/
def Failure.IsOfImage (f : Failure) : Prop := ∃ image, Registry.imageRegistry image = .error f

/-- Whether a failure is that of a wait for a pod. -/
def Failure.isOfWait : Failure → Bool
  | .timeout .. | .criticalWorkload .. => true
  | _ => false

theorem Failure.IsOfImage.not_refuses {f : Failure} (h : f.IsOfImage) : ¬Launch.Refuses f := by
  obtain ⟨image, h⟩ := h
  unfold Registry.imageRegistry at h
  split at h
  · cases h
  · cases h
    rintro (h | ⟨name, h⟩ | ⟨name, h⟩) <;> cases h

theorem not_changesNothing_of_timesAsked {steps : List (Step interface)}
    (h : 0 < timesAsked Request.createsClaim steps) : ¬ChangesNothing steps := by
  intro hNothing
  obtain ⟨before, r, a, after, rfl, hCreates⟩ := exists_call_of_timesAsked h
  cases r with
  | createClaim claim =>
    obtain ⟨name, hName⟩ := hNothing _ a (by simp) rfl
    cases hName
  | _ => cases hCreates

theorem findsAll_append {before after : List (Step interface)} :
    FindsAll (before ++ after) ↔ FindsAll before ∧ FindsAll after := by
  simp only [FindsAll, List.mem_append, or_imp, forall_and]

theorem changesNothing_append {before after : List (Step interface)} :
    ChangesNothing (before ++ after) ↔ ChangesNothing before ∧ ChangesNothing after := by
  simp only [ChangesNothing, List.mem_append, or_imp, forall_and]

theorem changesNothing_look {r : Request} {a : Result r.Answer} (hKeeps : r.changesObjects = false) :
    ChangesNothing [.call r a] := by
  intro r' a' hMem hChanges
  cases List.mem_singleton.1 hMem
  simp [hKeeps] at hChanges

/-- A look that finds its object neither changes nor misses anything. -/
theorem changesNothing_iff_of_found {r : Request} {a : Result r.Answer}
    (hKeeps : r.changesObjects = false) (hFound : ¬IsMiss (.call r a)) :
    ChangesNothing [.call r a] ↔ FindsAll [.call r a] :=
  iff_of_true (changesNothing_look hKeeps) fun step hMem => by rwa [List.mem_singleton.1 hMem]

/-- A look that misses its object, which is then created. -/
theorem changesNothing_iff_of_created {missing : Step interface} {r : Request} {a : Result r.Answer}
    {rest : List (Step interface)} (hMiss : IsMiss missing) (hChanges : r.changesObjects = true)
    (hOther : ∀ name, r ≠ .createNamespace name) :
    ChangesNothing (missing :: .call r a :: rest) ↔ FindsAll (missing :: .call r a :: rest) := by
  refine iff_of_false (fun hNothing => ?_) fun hAll => hAll _ List.mem_cons_self hMiss
  obtain ⟨name, hName⟩ := hNothing r a (by simp) hChanges
  exact hOther name hName

namespace Readiness

/-- While the cluster does what it is asked, a wait fails only as waits do. -/
theorem failsOnly_poll {name : String} {timeout started due : Duration} {policy : CompletedPodPolicy}
    {polls : Nat} {throttle : Throttle} :
    FailsOnly IsServed (·.isOfWait = true) (poll name timeout policy started polls due throttle) := by
  induction polls generalizing due throttle with
  | zero => exact failsOnly_fail rfl
  | succ polls ih =>
    intro steps ending hRun hServed
    cases turn_of_runs hRun with
    | unrested => cases hServed (.sleep due false) (by simp)
    | @unseen observed answer f hFailure =>
      obtain ⟨_, rfl⟩ := (hServed (.call (.getPod name) answer) (by simp)).exists_answer rfl
      cases hFailure
    | @decided observed pod outcome hVerdict =>
      refine ⟨outcome, rfl, fun f hError => ?_⟩
      subst hError
      unfold verdict at hVerdict
      split at hVerdict <;> cases hVerdict
      rfl
    | @undeleted observed pod container answer f hTick hFailure =>
      obtain ⟨_, rfl⟩ := (hServed (.call (.deletePod name) answer) (by simp)).exists_answer rfl
      cases hFailure
    | late => exact ⟨_, rfl, by rintro f ⟨⟩; rfl⟩
    | again hPause hInTime hLater =>
      exact ih hLater fun step hMem => hServed step (by simp [hMem])

theorem failsOnly_wait {name : String} {timeout : Duration} {policy : CompletedPodPolicy} :
    FailsOnly IsServed (·.isOfWait = true) (wait name timeout policy) := by
  intro steps ending hRun hServed
  obtain ⟨started, rest, rfl, hPoll⟩ := runs_now_andThen.1 hRun
  exact failsOnly_poll hPoll fun step hMem => hServed step (List.mem_cons_of_mem _ hMem)

end Readiness

namespace Workspace

variable {w : Workspace} {steps : List (Step interface)} {spec : RunSpec} {plan : Plan} {pod : Pod}
  {detection : List String} {f : Failure}

/-! ### The parts of a launch there -/

theorem succeeds_ask {r : Request} (h : r.isLookUp = false) :
    Succeeds IsServed (ask (I := interface) r) := by
  refine failsOnly_ask fun answer hServed => ?_
  obtain ⟨a, rfl⟩ := hServed.exists_answer h
  exact ⟨.ok a, rfl, nofun⟩

theorem succeeds_request {operation : String} {r : Request} (h : r.isLookUp = false) :
    Succeeds IsServed (request operation r) :=
  (succeeds_ask h).cancellable operation

theorem succeeds_ensureServiceAccount : Succeeds IsServed w.ensureServiceAccount := by
  have hAccount (account : String) : Succeeds IsServed (w.ensureAccount account) := by
    refine (succeeds_request rfl).andThen fun found => ?_
    cases found with
    | some _ => exact failsOnly_note _
    | none => exact (failsOnly_note _).andThen fun _ => succeeds_request rfl
  have hBinding (account role : String) : Succeeds IsServed (w.ensureRoleBinding account role) := by
    refine (succeeds_request rfl).andThen fun found => ?_
    cases found with
    | some _ => exact failsOnly_note _
    | none => exact (failsOnly_note _).andThen fun _ => succeeds_request rfl
  unfold ensureServiceAccount
  split
  · exact failsOnly_done ()
  · refine (hAccount _).andThen fun _ => ?_
    split
    · exact failsOnly_done ()
    · exact hBinding _ _

theorem succeeds_usableCredentials (registry : String) :
    Succeeds IsServed (PullSecret.usableCredentials registry) := by
  have hLook : FailsOnly IsServed (fun _ => True) (ask (I := interface) (.lookUp registry)) :=
    failsOnly_ask fun answer hServed => by
      cases hServed with
      | answered a => exact ⟨_, rfl, nofun⟩
      | notLookedUp f => exact ⟨.error f, rfl, fun _ _ => trivial⟩
  refine hLook.attempt.andThen fun found => ?_
  split
  · split
    · exact failsOnly_done _
    · exact (failsOnly_note _).andThen fun _ => failsOnly_done _
  · exact (failsOnly_note _).andThen fun _ => failsOnly_done _
  · exact (failsOnly_note _).andThen fun _ => failsOnly_done _

theorem succeeds_createSecret (name «namespace» : String) (content : Text.Bytes) :
    Succeeds IsServed (PullSecret.create name «namespace» content) :=
  (succeeds_ask rfl).andThen fun _ => (failsOnly_note _).andThen fun _ => failsOnly_done _

theorem succeeds_ensure {name «namespace» image registry : String}
    (h : Registry.imageRegistry image = .ok registry) :
    Succeeds IsServed (PullSecret.ensure name «namespace» image) := by
  refine (failsOnly_note _).andThen fun _ =>
    (failsOnly_ofExcept fun f hError => by rw [h] at hError; cases hError).andThen fun registry =>
    (succeeds_usableCredentials registry).andThen fun found => ?_
  cases found with
  | none => exact failsOnly_done _
  | some credentials =>
    refine (succeeds_ask rfl).andThen fun existing => ?_
    cases existing with
    | none => exact succeeds_createSecret _ _ _
    | some existing =>
      dsimp only
      split
      · exact (failsOnly_note _).andThen fun _ => failsOnly_done _
      · exact (failsOnly_note _).andThen fun _ => (succeeds_ask rfl).andThen fun _ =>
          succeeds_createSecret _ _ _

theorem runs_ensure_error {name «namespace» image : String} {ending : Result PullSecret.SyncOutcome}
    (hImage : Registry.imageRegistry image = .error f)
    (h : Runs (PullSecret.ensure name «namespace» image) steps ending) :
    steps = [] ∧ ending = some (.error f) := by
  replace h := runs_ofExcept_andThen.1 (runs_log.1 h)
  rw [hImage] at h
  exact runs_fail.1 h

/-- The pull secret is refused only for its image, and then nothing is asked. -/
theorem runs_ensurePullSecret {ending : Result (Option String)}
    (h : Runs (w.ensurePullSecret spec) steps ending) (hServed : ∀ step ∈ steps, IsServed step) :
    (∃ pullSecret, ending = some (.ok pullSecret)) ∨
      steps = [] ∧ ∃ f, ending = some (.error f) ∧ f.IsOfImage := by
  unfold ensurePullSecret at h
  split at h
  · obtain ⟨syncing, _, rest, rfl, hSync, hRest⟩ := runs_andThen.1 h
    obtain ⟨outcome, rfl, hEnsure⟩ := runs_cancellable.1 hSync
    cases hRegistry : Registry.imageRegistry (w.setting.image spec) with
    | error f =>
      obtain ⟨rfl, rfl⟩ := runs_ensure_error hRegistry hEnsure
      obtain ⟨rfl, rfl⟩ := runs_fail.1 hRest
      exact .inr ⟨rfl, f, rfl, _, hRegistry⟩
    | ok registry =>
      obtain ⟨ended, rfl⟩ := (succeeds_ensure hRegistry).ending hEnsure fun step hMem =>
        hServed step (List.mem_append_left _ hMem)
      obtain ⟨-, rfl⟩ := runs_done.1 hRest
      exact .inl ⟨_, rfl⟩
  · obtain ⟨-, rfl⟩ := runs_done.1 h
    exact .inl ⟨_, rfl⟩

theorem succeeds_detectionPods : Succeeds IsServed w.detectionPods := by
  intro steps ending hRun hServed
  obtain ⟨asking, _, rest, rfl, hAttempt, hRest⟩ := runs_andThen.1 hRun
  obtain ⟨asked, rfl, hRequest⟩ := runs_attempt.1 hAttempt
  obtain ⟨answer, rfl, rfl⟩ := runs_request.1 hRequest
  have hAnswered := hServed (.call (.listPods w.name.detectionSelector) answer) (by simp)
  obtain ⟨_, rfl⟩ := hAnswered.exists_answer rfl
  obtain ⟨-, rfl⟩ := runs_done.1 hRest
  exact ⟨_, rfl, nofun⟩

theorem failsOnly_settlePod :
    FailsOnly IsServed (·.isOfWait = true) (w.settlePod detection) := by
  refine (failsOnly_note _).andThen fun _ => Readiness.failsOnly_wait.andThen fun result => ?_
  have hEnd : FailsOnly IsServed (·.isOfWait = true) (w.tellEnd result) := by
    cases result with
    | ready pod => exact failsOnly_done ()
    | exited pod => exact failsOnly_note _
    | gone => exact failsOnly_note _
  refine hEnd.andThen fun _ => ?_
  cases detection with
  | nil => exact failsOnly_done ()
  | cons found more =>
    exact (failsOnly_note _).andThen fun _ => (succeeds_request rfl).mono fun _ => nofun

theorem failsOnly_createPod :
    FailsOnly IsServed (·.isOfWait = true) (w.createPod pod detection) :=
  (failsOnly_note _).andThen fun _ =>
    ((succeeds_request rfl).mono fun _ => nofun).andThen fun _ => failsOnly_settlePod

/-- The pod itself is brought up, or the wait for it fails. -/
theorem failsOnly_replacePod :
    FailsOnly IsServed (·.isOfWait = true) (w.replacePod pod detection) := by
  intro steps ending hRun hServed
  cases replaces_of_runs hRun with
  | @unseen answer _ hAnswer hEnding =>
    obtain ⟨_, rfl⟩ := (hServed (.call (.getPod w.resource) answer) (by simp)).exists_answer rfl
    exact absurd rfl (hAnswer _)
  | absent hCreate => exact failsOnly_createPod hCreate fun step hMem => hServed step (by simp [hMem])
  | current => exact ⟨_, rfl, nofun⟩
  | @undeleted _ answer _ hCarries hAnswer hEnding =>
    have hDeleted :=
      hServed (.call (.deletePodAndWait w.resource w.options.podTimeout) answer) (by simp)
    obtain ⟨_, rfl⟩ := hDeleted.exists_answer rfl
    exact absurd rfl hAnswer
  | replaced hCarries hCreate =>
    exact failsOnly_createPod hCreate fun step hMem => hServed step (by simp [hMem])

/-- What the pod depends on is refused only for the image, when the service account has been seen to
and nothing else. -/
theorem refused_of_preparePod (h : Runs (w.preparePod spec) steps (some (.error f)))
    (hServed : ∀ step ∈ steps, IsServed step) : f.IsOfImage ∧ w.SeesAccess steps := by
  obtain ⟨accounts, r, more, rfl, hAccounts, hMore⟩ := runs_andThen.1 h
  obtain ⟨_, rfl⟩ := succeeds_ensureServiceAccount.ending hAccounts fun step hMem =>
    hServed step (by simp [hMem])
  obtain ⟨syncing, synced, listing, rfl, hSync, hList⟩ := runs_andThen.1 hMore
  obtain ⟨pullSecret, rfl⟩ | ⟨rfl, f', rfl, hImage⟩ := runs_ensurePullSecret hSync fun step hMem =>
    hServed step (by simp [hMem])
  · obtain ⟨asking, listed, placing, rfl, hAsk, hPlace⟩ := runs_andThen.1 hList
    obtain ⟨detection, rfl⟩ := succeeds_detectionPods.ending hAsk fun step hMem =>
      hServed step (by simp [hMem])
    rw [resume_ok, bind_eq_andThen, runs_silent_andThen fun _ _ => runs_affinityWorkspace] at hPlace
    cases (runs_done.1 hPlace).2
  · obtain ⟨rfl, hEnding⟩ := runs_fail.1 hList
    cases hEnding
    exact ⟨hImage, by simpa using seesAccess_of_runs hAccounts⟩

/-- Once its plan is found, a launch refuses its input only while it prepares its pod. -/
theorem refused_of_applyPod (hValid : ∃ pod, (w.podOf plan {}).outcome = .ok pod)
    (h : Runs (w.applyPod plan) steps (some (.error f))) (hServed : ∀ step ∈ steps, IsServed step)
    (hWait : f.isOfWait = false) : f.IsOfImage ∧ w.SeesAccess steps := by
  obtain ⟨pod, hPod⟩ := hValid
  obtain ⟨failure, hEnding, hPrepare⟩ | ⟨preparing, prepared, handling, rfl, -, hHandle⟩ :=
    (runs_applyPod_iff hPod).1 h
  · obtain ⟨f', rfl, hError⟩ := Option.map_eq_some_iff.1 hEnding.symm
    cases hError
    exact refused_of_preparePod hPrepare hServed
  · have hFails := failsOnly_replacePod.of_error hHandle fun step hMem =>
      hServed step (by simp [hMem])
    simp [hWait] at hFails

/-! ### What has been done by then -/

/-- The account and its binding are created when they are not found. -/
theorem changesNothing_iff_of_access (h : w.SeesAccess steps) :
    ChangesNothing steps ↔ FindsAll steps := by
  have hAccount {account : String} {steps : List (Step interface)}
      (h : w.SeesAccount account steps) : ChangesNothing steps ↔ FindsAll steps := by
    cases h with
    | found => exact changesNothing_iff_of_found rfl nofun
    | created => exact changesNothing_iff_of_created (.account _) rfl nofun
  have hBinding {account role : String} {steps : List (Step interface)}
      (h : w.SeesBinding account role steps) : ChangesNothing steps ↔ FindsAll steps := by
    cases h with
    | found => exact changesNothing_iff_of_found rfl nofun
    | created => exact changesNothing_iff_of_created (.binding _) rfl nofun
  cases h with
  | unwanted => exact iff_of_true (fun _ _ hMem => by simp at hMem) fun _ hMem => by simp at hMem
  | unbound _ hSees => exact hAccount hSees
  | bound _ hSees hBinds =>
    rw [changesNothing_append, findsAll_append, hAccount hSees, hBinding hBinds]

end Workspace

namespace Launch

variable {w : Workspace} {l : Launch} {steps : List (Step interface)} {f : Failure}

/-- To see to the namespace changes and misses nothing of what counts. -/
theorem changesNothing_of_onlyNames (h : w.OnlyNames steps) :
    ChangesNothing steps ∧ FindsAll steps := by
  refine ⟨fun r a hMem _ => ?_, fun step hMem hMiss => ?_⟩
  · obtain ⟨_, hStep⟩ := h _ hMem
    cases hStep
    exact ⟨_, rfl⟩
  · obtain ⟨_, rfl⟩ := h _ hMem
    cases hMiss

/-- Where the cluster does all it is asked, and a launch fails but not for its wait, it has created or
deleted something exactly when it fails for its image and something was missing before that. -/
theorem changesNothing_iff_of_refused (h : Runs (l.program w) steps (some (.error f)))
    (hServed : ∀ step ∈ steps, IsServed step) (hWait : f.isOfWait = false) :
    ChangesNothing steps ↔ (f.IsOfImage → FindsAll steps) := by
  rw [program_eq_plan] at h
  obtain ⟨opening, _, rest, rfl, hOpening, hApply⟩ := runs_andThen.1 h
  obtain ⟨naming, finding, rfl, hNaming, hPlans⟩ := plans_of_runs hOpening
  obtain ⟨hUnchanged, hFound⟩ := changesNothing_of_onlyNames hNaming
  rw [List.append_assoc, changesNothing_append, findsAll_append, and_iff_right hUnchanged,
    and_iff_right hFound]
  have hLater : ∀ step ∈ rest, IsServed step := fun step hMem => hServed step (by simp [hMem])
  cases hPlans with
  | unusable hAnswer =>
    obtain ⟨rfl, -⟩ := runs_fail.1 hApply
    refine iff_of_true (by simpa using changesNothing_look rfl) fun _ step hMem hMiss => ?_
    cases (List.mem_singleton.1 hMem : step = _)
    cases hMiss
    exact hAnswer rfl
  | stored hPlan =>
    obtain ⟨hImage, hAccess⟩ := Workspace.refused_of_applyPod hPlan.valid hApply hLater hWait
    rw [changesNothing_append, findsAll_append, imp_iff_right hImage,
      changesNothing_iff_of_found rfl (by nofun), Workspace.changesNothing_iff_of_access hAccess]
  | refused hRefuses =>
    obtain ⟨rfl, hEnding⟩ := runs_fail.1 hApply
    cases hEnding
    exact iff_of_true (by simpa using changesNothing_look rfl) fun hImage =>
      absurd hRefuses hImage.not_refuses
  | @fresh claim plan answer hPlan =>
    obtain ⟨_, rfl⟩ := (hServed (.call (.createClaim claim) answer) (by simp)).exists_answer rfl
    obtain ⟨hImage, -⟩ := Workspace.refused_of_applyPod hPlan.valid hApply hLater hWait
    rw [imp_iff_right hImage]
    exact changesNothing_iff_of_created (.claim _) rfl nofun

/-- The workspace with labels that cannot be read. -/
def mislabelled : Workspace :=
  { Workspace.notes with options := { Workspace.notes.options with
      manifest := { Workspace.notes.options.manifest with labels := some "team" } } }

/-- The failure that they lead to. -/
def labelFailure : Failure :=
  .configuration "LABELS" "entry 'team' is not in key=value form"

/-- A launch of that workspace. -/
def mislabelledFirst : Followed interface Simulation.Store Unit :=
  Simulation.Store.follow {} .trusted ((run (some .notes)).program mislabelled)

/-- It fails for its labels, and so has changed nothing although there was no claim yet. -/
theorem changesNothing_iff_of_refused_of_mislabelled :
    Runs ((run (some .notes)).program mislabelled) mislabelledFirst.steps
        (some (.error labelFailure)) ∧
      (∀ step ∈ mislabelledFirst.steps, IsServed step) ∧ labelFailure.isOfWait = false ∧
      ChangesNothing mislabelledFirst.steps := by
  have hEnding := Followed.ending_of_failure
    (show mislabelledFirst.failure? = some labelFailure by decide +kernel)
  have hRuns : Runs ((run (some .notes)).program mislabelled) mislabelledFirst.steps
      (some (.error labelFailure)) := hEnding ▸ Simulation.Store.runs_follow _ _ _
  have hServed : ∀ step ∈ mislabelledFirst.steps, IsServed step := by decide +kernel
  exact ⟨hRuns, hServed, rfl, (changesNothing_iff_of_refused hRuns hServed rfl).2 fun hImage =>
    absurd (.inl rfl) hImage.not_refuses⟩

/-- The workspace with an image whose reference cannot be used. -/
def misaimed : Workspace :=
  { Workspace.notes with options := { Workspace.notes.options with
      manifest := { Workspace.notes.options.manifest with
        dangerouslyOverrideImage := some "Team/App" } } }

/-- The failure that its reference leads to. -/
def imageFailure : Failure :=
  .serialization "invalid image 'Team/App': repository name must be lowercase" (some "ImageReference")

/-- A launch of that workspace. -/
def misaimedFirst : Followed interface Simulation.Store Unit :=
  Simulation.Store.follow {} .trusted ((run (some .notes)).program misaimed)

/-- A launch may have created a volume claim when it fails for its image, although the cluster does
all it is asked. -/
theorem refused_after_creation :
    Runs ((run (some .notes)).program misaimed) misaimedFirst.steps (some (.error imageFailure)) ∧
      (∀ step ∈ misaimedFirst.steps, IsServed step) ∧ imageFailure.isOfWait = false ∧
      ¬ChangesNothing misaimedFirst.steps := by
  have hEnding := Followed.ending_of_failure
    (show misaimedFirst.failure? = some imageFailure by decide +kernel)
  exact ⟨hEnding ▸ Simulation.Store.runs_follow _ _ _, by decide +kernel, rfl,
    not_changesNothing_of_timesAsked (by decide +kernel)⟩

end Launch

end PodWorkspace
