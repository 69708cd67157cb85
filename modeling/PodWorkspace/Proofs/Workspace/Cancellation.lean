import PodWorkspace.Proofs.Program.Cancellation
import PodWorkspace.Proofs.Simulation.Deletion

/-! Cancelling what is done with a workspace. Each part of an operation can be cancelled wherever it
waits, and says then that it was. Some parts take no notice of failures, but they do of this one. The
creation of the namespace is the exception: it is as good as done then, and what comes after it is
cancelled in its place. -/

namespace PodWorkspace

open Cluster Program

namespace Readiness

variable {name : String} {timeout started due : Duration} {policy : CompletedPodPolicy}

theorem heeds_observe : Heeds IsCancelled (observe name due) :=
  (heeds_cancellable _ (heeds_sleepUntil due)).sequence fun _ => heeds_now.sequence fun _ =>
    (heeds_cancellable _ (heeds_ask (I := interface) _)).sequence fun _ => heeds_done _

theorem heeds_tellPending {pod : Option Pod} {reason : String} {throttle : Throttle} :
    Heeds IsCancelled (tellPending name pod reason throttle) := by
  refine heeds_now.sequence fun now => ?_
  dsimp only
  split
  · exact (heeds_note _).sequence fun _ => heeds_done _
  · exact heeds_done _

theorem heeds_unlessLate {next : Action WaitEnd} (h : Heeds IsCancelled next) :
    Heeds IsCancelled (unlessLate name timeout started next) := by
  refine heeds_now.sequence fun now => ?_
  split
  · exact heeds_fail _
  · exact h

theorem heeds_poll {polls : Nat} {throttle : Throttle} :
    Heeds IsCancelled (poll name timeout policy started polls due throttle) := by
  induction polls generalizing due throttle with
  | zero => exact heeds_fail _
  | succ polls ih =>
    refine heeds_observe.sequence fun ⟨observed, pod⟩ => ?_
    dsimp only
    split
    · exact heeds_done _
    · exact (heeds_note _).sequence fun _ => heeds_done _
    · exact (heeds_note _).sequence fun _ => heeds_done _
    · exact heeds_done _
    · exact heeds_done _
    · exact heeds_fail _
    · exact (heeds_note _).sequence fun _ =>
        (heeds_cancellable _ (heeds_ask (I := interface) _)).sequence fun _ => heeds_unlessLate ih
    · exact heeds_tellPending.sequence fun _ => heeds_unlessLate ih

theorem heeds_wait : Heeds IsCancelled (wait name timeout policy) :=
  heeds_now.sequence fun _ => heeds_poll

end Readiness

namespace PullSecret

variable {name «namespace» image registry : String}

/-- A lookup that is cut off is not the same as one that fails. -/
theorem heeds_usableCredentials : Heeds IsCutOff (usableCredentials registry) := by
  refine heeds_attempt (heeds_ask (I := interface) _) (fun _ => rfl) nofun fun answer => ?_
  split
  · split
    · exact heeds_done _
    · exact (heeds_note _).sequence fun _ => heeds_done _
  · exact (heeds_note _).sequence fun _ => heeds_done _
  · exact (heeds_note _).sequence fun _ => heeds_done _

theorem heeds_create {content : Text.Bytes} : Heeds IsCutOff (create name «namespace» content) :=
  (heeds_ask (I := interface) _).sequence fun _ => (heeds_note _).sequence fun _ => heeds_done _

theorem heeds_ensure : Heeds IsCutOff (ensure name «namespace» image) := by
  refine (heeds_note _).sequence fun _ => (heeds_ofExcept _).sequence fun registry =>
    heeds_usableCredentials.sequence fun found => ?_
  rcases found with _ | credentials
  · exact heeds_done _
  · refine (heeds_ask (I := interface) _).sequence fun existing => ?_
    rcases existing with _ | existing
    · exact heeds_create
    · dsimp only
      split
      · exact (heeds_note _).sequence fun _ => heeds_done _
      · exact (heeds_note _).sequence fun _ => (heeds_ask (I := interface) _).sequence fun _ =>
          heeds_create

theorem heeds_delete : Heeds IsCutOff (delete name) := by
  refine (heeds_ask (I := interface) _).sequence fun existing => ?_
  rcases existing with _ | existing
  · exact heeds_note _
  · exact heeds_ask (I := interface) _

end PullSecret

namespace Workspace

variable {w : Workspace} {detection : List String} {pod : Pod} {given : Option RunSpec}

theorem haltsWith_request {operation : String} {r : Request} :
    HaltsWith IsCancelled (request operation r) :=
  haltsWith_cancellable operation (haltsWith_ask (I := interface) r)

theorem heeds_request {operation : String} {r : Request} :
    Heeds IsCancelled (request operation r) :=
  heeds_cancellable operation (heeds_ask (I := interface) r)

theorem heeds_tell {level : Level} {message : String} {fields : List (String × String)} :
    Heeds IsCancelled (w.tell level message fields) := heeds_note _

theorem haltsWith_tell_andThen {α : Type} {Q : Result α → Prop} {next : Unit → Action α}
    {level : Level} {message : String} {fields : List (String × String)}
    (h : HaltsWith Q (next ())) : HaltsWith Q (andThen next (w.tell level message fields)) := h

theorem heeds_waitFor {name : String} : Heeds IsCancelled (w.waitFor name) := Readiness.heeds_wait

/-! ### Parts that take no notice of failures -/

theorem haltsWith_ensureNamespace : HaltsWith (· = some (.ok ())) w.ensureNamespace := by
  unfold ensureNamespace
  split
  · exact rfl
  · exact haltsWith_attempt haltsWith_request nofun fun f _ => rfl

/-- A cancellation of the creation of the namespace is only logged. -/
theorem heeds_ensureNamespace : Heeds (· = some (.ok ())) w.ensureNamespace := by
  unfold ensureNamespace
  split
  · exact heeds_done _
  · refine heeds_attempt heeds_request nofun (fun f _ => rfl) fun answer => ?_
    cases answer with
    | error f => exact heeds_note _
    | ok _ => exact heeds_done _

section Namespaced

variable {α : Type} {next : Unit → Action α} {cause : Option Failure → Prop}

/-- What comes after the creation of the namespace is cancelled in its place. -/
theorem haltsWith_namespaced (h : HaltsWith (Stops cause) (next ())) :
    HaltsWith (Stops cause) (andThen next w.ensureNamespace) := by
  refine haltsWith_andThen.2 (haltsWith_ensureNamespace.mono ?_)
  rintro _ rfl
  exact h

theorem heeds_namespaced (hHalts : HaltsWith (Stops cause) (next ()))
    (hNext : Heeds (Stops cause) (next ())) :
    Heeds (Stops cause) (andThen next w.ensureNamespace) := by
  refine heeds_ensureNamespace.andThen ?_ fun _ => hNext
  rintro _ rfl
  exact hHalts

end Namespaced

/-- A cancellation is the one failure that is passed on. -/
theorem haltsWith_passedOn {α : Type} {f : Failure} {next : Action α}
    (hCancelled : f.isCancelled = true) :
    HaltsWith IsCancelled (if f.isCancelled then .fail f else next) := by
  rw [if_pos hCancelled]
  exact hCancelled

theorem heeds_detectionPods : Heeds IsCancelled w.detectionPods := by
  refine heeds_attempt heeds_request nofun (fun f => haltsWith_passedOn) fun answer => ?_
  rcases answer with f | names
  · dsimp only
    split
    · exact heeds_fail f
    · exact (heeds_note _).sequence fun _ => heeds_done _
  · exact heeds_done _

theorem heeds_runningPod : Heeds IsCancelled w.runningPod := by
  refine heeds_attempt heeds_waitFor nofun (fun f => haltsWith_passedOn) fun outcome => ?_
  rcases outcome with f | pod | pod | _
  · dsimp only
    split
    · exact heeds_fail f
    · exact heeds_tell.sequence fun _ => (heeds_note _).sequence fun _ => heeds_done _
  · exact heeds_done _
  · exact heeds_done _
  · exact heeds_done _

/-! ### Launches -/

theorem haltsWith_findClaim : HaltsWith IsCancelled w.findClaim := haltsWith_request.sequence _

theorem heeds_findClaim : Heeds IsCancelled w.findClaim := by
  refine heeds_request.sequence fun found => ?_
  rcases found with _ | claim
  · exact heeds_done _
  · exact (heeds_ofExcept _).sequence fun _ => heeds_done _

theorem heeds_podTemplate : Heeds IsCancelled w.podTemplate := by
  unfold podTemplate
  split
  · exact heeds_done _
  · exact (heeds_note _).sequence fun _ => (heeds_ofExcept _).sequence fun _ => heeds_done _

theorem heeds_validatePod (plan : Plan) : Heeds IsCancelled (w.validatePod plan) :=
  (heeds_ofLogged _).sequence fun _ => heeds_done _

theorem heeds_storedPlan {stored : WorkspaceRecord} :
    Heeds IsCancelled (w.storedPlan given stored) :=
  heeds_podTemplate.sequence fun _ => (heeds_validatePod _).sequence fun _ => heeds_done _

theorem heeds_freshPlan {spec : RunSpec} : Heeds IsCancelled (w.freshPlan spec) :=
  (heeds_ofLogged _).sequence fun _ => heeds_podTemplate.sequence fun _ =>
    (heeds_validatePod _).sequence fun _ => heeds_tell.sequence fun _ =>
      heeds_request.sequence fun _ => heeds_done _

theorem haltsWith_runPlan : HaltsWith IsCancelled (w.runPlan given) :=
  haltsWith_namespaced (haltsWith_findClaim.sequence _)

theorem heeds_runPlan : Heeds IsCancelled (w.runPlan given) := by
  refine heeds_namespaced (haltsWith_findClaim.sequence _) (heeds_findClaim.sequence fun found => ?_)
  rcases found with _ | ⟨claim, stored⟩
  · cases given with
    | none => exact heeds_fail _
    | some spec => exact heeds_freshPlan
  · exact heeds_storedPlan

theorem heeds_startPlan : Heeds IsCancelled w.startPlan := by
  refine heeds_findClaim.sequence fun found => ?_
  rcases found with _ | ⟨claim, stored⟩
  · exact heeds_fail _
  · exact heeds_storedPlan

theorem heeds_ensureAccount (account : String) : Heeds IsCancelled (w.ensureAccount account) := by
  refine heeds_request.sequence fun found => ?_
  rcases found with _ | found
  · exact (heeds_note _).sequence fun _ => heeds_request
  · exact heeds_note _

theorem heeds_ensureRoleBinding (account role : String) :
    Heeds IsCancelled (w.ensureRoleBinding account role) := by
  refine heeds_request.sequence fun found => ?_
  rcases found with _ | found
  · exact (heeds_note _).sequence fun _ => heeds_request
  · exact heeds_note _

theorem heeds_ensureServiceAccount : Heeds IsCancelled w.ensureServiceAccount := by
  unfold ensureServiceAccount
  split
  · exact heeds_done _
  · refine (heeds_ensureAccount _).sequence fun _ => ?_
    split
    · exact heeds_done _
    · exact heeds_ensureRoleBinding _ _

theorem heeds_ensurePullSecret (spec : RunSpec) : Heeds IsCancelled (w.ensurePullSecret spec) := by
  unfold ensurePullSecret
  split
  · refine (heeds_cancellable _ PullSecret.heeds_ensure).sequence fun outcome => ?_
    exact heeds_done _
  · exact heeds_done _

theorem heeds_affinityWorkspace : Heeds IsCancelled (w.affinityWorkspace detection) := by
  unfold affinityWorkspace
  split
  · exact (heeds_note _).sequence fun _ => heeds_done _
  · exact heeds_done _

theorem heeds_preparePod (spec : RunSpec) : Heeds IsCancelled (w.preparePod spec) :=
  heeds_ensureServiceAccount.sequence fun _ => (heeds_ensurePullSecret spec).sequence fun _ =>
    heeds_detectionPods.sequence fun _ => heeds_affinityWorkspace.sequence fun _ => heeds_done _

theorem heeds_isCurrent (existing : Pod) : Heeds IsCancelled (w.isCurrent existing) := by
  unfold isCurrent
  split
  · exact (heeds_note _).sequence fun _ => heeds_done _
  · split
    · exact heeds_done _
    · exact (heeds_note _).sequence fun _ => heeds_done _

theorem heeds_settlePod : Heeds IsCancelled (w.settlePod detection) := by
  refine heeds_tell.sequence fun _ => heeds_waitFor.sequence fun result => ?_
  have hTell : Heeds IsCancelled (w.tellEnd result) := by
    cases result with
    | ready pod => exact heeds_done _
    | exited pod => exact heeds_tell
    | gone => exact heeds_tell
  refine hTell.sequence fun _ => ?_
  cases detection with
  | nil => exact heeds_done _
  | cons found more => exact heeds_tell.sequence fun _ => heeds_request

theorem heeds_createPod : Heeds IsCancelled (w.createPod pod detection) :=
  heeds_tell.sequence fun _ => heeds_request.sequence fun _ => heeds_settlePod

theorem heeds_replacePod : Heeds IsCancelled (w.replacePod pod detection) := by
  refine heeds_request.sequence fun found => ?_
  rcases found with _ | existing
  · exact heeds_createPod
  · refine (heeds_isCurrent existing).sequence fun current => ?_
    cases current with
    | true => exact heeds_tell
    | false => exact heeds_tell.sequence fun _ => heeds_request.sequence fun _ => heeds_createPod

theorem heeds_applyPod (plan : Plan) : Heeds IsCancelled (w.applyPod plan) :=
  (heeds_preparePod plan.spec).sequence fun _ => (heeds_ofLogged _).sequence fun _ =>
    heeds_replacePod

theorem haltsWith_run : HaltsWith IsCancelled (w.run given) := haltsWith_runPlan.sequence _

theorem heeds_run : Heeds IsCancelled (w.run given) := heeds_runPlan.sequence heeds_applyPod

theorem haltsWith_start : HaltsWith IsCancelled w.start :=
  (haltsWith_findClaim.sequence _).sequence _

theorem heeds_start : Heeds IsCancelled w.start := heeds_startPlan.sequence heeds_applyPod

/-! ### The other operations -/

theorem haltsWith_stop : HaltsWith IsCancelled w.stop := by
  have hDelete : HaltsWith IsCancelled (request "delete pod" (.deletePod w.resource)) :=
    haltsWith_request
  exact haltsWith_tell_andThen hDelete

theorem heeds_stop : Heeds IsCancelled w.stop := heeds_tell.sequence fun _ => heeds_request

theorem haltsWith_delete : HaltsWith IsCancelled w.delete :=
  haltsWith_tell_andThen (haltsWith_request.sequence _)

theorem heeds_ifOwned {owned : Bool} {x : Action Unit} (h : Heeds IsCancelled x) :
    Heeds IsCancelled (ifOwned owned x) := by
  cases owned with
  | false => exact heeds_done ()
  | true => exact h

theorem heeds_delete : Heeds IsCancelled w.delete := by
  have hBinding : Heeds IsCancelled w.deleteBinding := heeds_tell.sequence fun _ => heeds_request
  have hSecret : Heeds IsCancelled w.deletePullSecret :=
    heeds_tell.sequence fun _ => heeds_cancellable _ PullSecret.heeds_delete
  rw [delete_eq]
  exact heeds_tell.sequence fun _ => heeds_request.sequence fun _ => heeds_tell.sequence fun _ =>
    heeds_request.sequence fun _ => (heeds_ifOwned hBinding).sequence fun _ =>
      heeds_ifOwned hSecret

theorem haltsWith_find : HaltsWith IsCancelled w.find := haltsWith_findClaim.sequence _

theorem heeds_find : Heeds IsCancelled w.find := by
  refine heeds_findClaim.sequence fun found => ?_
  rcases found with _ | ⟨claim, stored⟩
  · exact heeds_done _
  · exact heeds_runningPod.sequence fun _ => heeds_done _

theorem haltsWith_command {user stdin : Option String} {text : String} :
    HaltsWith IsCancelled (w.command user text stdin) := by
  have hExec : HaltsWith IsCancelled (request "exec" (.exec w.resource Manifest.devContainerName
      (execCommand user text) stdin)) := haltsWith_request
  exact haltsWith_tell_andThen hExec

theorem heeds_command {user stdin : Option String} {text : String} :
    Heeds IsCancelled (w.command user text stdin) :=
  heeds_tell.sequence fun _ => heeds_request

/-- Why the search for the architecture stops when it is cancelled. It loads the template of its pod
before it asks for that to be created. -/
def StopsSearch (w : Workspace) (f? : Option Failure) : Prop :=
  f?.any Failure.isCancelled = true ∨ ∃ f, f? = some f ∧ w.detectionTemplate = .error f

theorem stopsSearch_of_isCancelled {α : Type} (r : Result α) (h : IsCancelled r) :
    Stops w.StopsSearch r :=
  h.ending .inl fun _ => .inl

theorem haltsWith_detectionTemplate {α : Type} {next : Option Pod → Action α}
    (h : ∀ template, HaltsWith IsCancelled (next template)) :
    HaltsWith (Stops w.StopsSearch) (andThen next (ofExcept w.detectionTemplate)) := by
  cases hTemplate : w.detectionTemplate with
  | error f => exact .inr ⟨f, rfl, hTemplate⟩
  | ok template => exact (h template).mono stopsSearch_of_isCancelled

theorem haltsWith_targetArchitecture {suffix : String} :
    HaltsWith (Stops w.StopsSearch) (w.targetArchitecture suffix) :=
  haltsWith_namespaced (haltsWith_detectionTemplate fun _ =>
    haltsWith_tell_andThen (haltsWith_request.sequence _))

theorem heeds_targetArchitecture {suffix : String} :
    Heeds (Stops w.StopsSearch) (w.targetArchitecture suffix) := by
  refine heeds_namespaced (haltsWith_detectionTemplate fun _ =>
    haltsWith_tell_andThen (haltsWith_request.sequence _)) ?_
  refine (heeds_ofExcept _).sequence fun template => Heeds.mono ?_ stopsSearch_of_isCancelled
  refine heeds_tell.sequence fun _ => heeds_request.sequence fun _ =>
    heeds_waitFor.sequence fun ending => ?_
  split
  · exact heeds_request.sequence fun _ => heeds_tell.sequence fun _ => heeds_done _
  · exact heeds_fail _

end Workspace

end PodWorkspace
