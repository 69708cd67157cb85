import PodWorkspace.Proofs.Cluster.Request
import PodWorkspace.Proofs.Program.Inquiry
import PodWorkspace.Workspace.Run

/-! The stages in which a workspace is brought up. It is opened, which settles the volume claim; then
the objects that its pod depends on are seen to; and at last the pod is handled. Each request belongs
to one stage. The parts of a launch up to the handling of the pod only ask, and each of them asks only
what belongs to its stage. -/

namespace PodWorkspace

open Cluster Program

namespace Cluster.Request

/-- The stages of a launch. -/
inductive Stage where
  /-- The namespace and the volume claim. -/
  | opening
  /-- The service account, the pull secret and the list of detection pods. -/
  | preparing
  /-- The pods themselves. -/
  | handling
  deriving DecidableEq

/-- The stage of a launch to which a request belongs, if it belongs to one. -/
def stage : Request → Option Stage
  | .createNamespace _ | .getClaim _ | .createClaim _ => some .opening
  | .getServiceAccount _ | .createServiceAccount _ | .getRoleBinding _ | .createRoleBinding _
  | .lookUp _ | .getSecret _ | .createSecret _ | .deleteSecret _ | .listPods _ => some .preparing
  | .getPod _ | .createPod _ | .deletePod _ | .deletePodAndWait .. | .forceDeletePods _ =>
    some .handling
  | .deleteClaim _ | .podLogs .. | .exec .. | .deleteRoleBinding _ => none

theorem stage_of_changesClaims {r : Request} (h : r.changesClaims = true) :
    r.stage = some .opening ∨ r.stage = none := by
  cases r <;> first | exact .inl rfl | exact .inr rfl | cases h

theorem stage_of_changesBindings {r : Request} (h : r.changesBindings = true) :
    r.stage = some .preparing ∨ r.stage = none := by
  cases r <;> first | exact .inl rfl | exact .inr rfl | cases h

theorem stage_of_createsPod {r : Request} (h : r.createsPod = true) : r.stage = some .handling := by
  cases r <;> first | rfl | cases h

theorem stage_of_deletesPods {r : Request} (h : r.deletesPods = true) :
    r.stage = some .handling := by
  cases r <;> first | rfl | cases h

theorem stage_of_deletesPodAndWaits {r : Request} (h : r.deletesPodAndWaits = true) :
    r.stage = some .handling := by
  cases r <;> first | rfl | cases h

theorem stage_of_looksAtPod {r : Request} (h : r.looksAtPod = true) : r.stage = some .handling := by
  cases r <;> first | rfl | cases h

end Cluster.Request

namespace Workspace

variable {w : Workspace} {steps : List (Step interface)}

@[simp] theorem runs_request {operation : String} {r : Request} {ending : Result r.Answer} :
    Runs (request operation r) steps ending ↔
      ∃ answer : Result r.Answer, steps = [.call r answer] ∧
        ending = some (answer.getD (.error (.cancelled operation))) := by
  rw [request, runs_cancellable]
  constructor
  · rintro ⟨answer, rfl, h⟩
    exact ⟨answer, runs_ask.1 h, rfl⟩
  · rintro ⟨answer, rfl, rfl⟩
    exact ⟨answer, rfl, runs_ask.2 rfl⟩

theorem runs_request_andThen {α : Type} {operation : String} {r : Request}
    {next : r.Answer → Action α} {ending : Result α} :
    Runs (andThen next (request operation r)) steps ending ↔
      ∃ (answer : Result r.Answer) (rest : List (Step interface)),
        steps = .call r answer :: rest ∧
          Runs (resume next (some (answer.getD (.error (.cancelled operation))))) rest ending := by
  rw [runs_andThen]
  constructor
  · rintro ⟨before, _, rest, rfl, hBefore, h⟩
    obtain ⟨answer, rfl, rfl⟩ := runs_request.1 hBefore
    exact ⟨answer, rest, rfl, h⟩
  · rintro ⟨answer, rest, rfl, h⟩
    exact ⟨[_], _, rest, rfl, runs_request.2 ⟨answer, rfl, rfl⟩, h⟩

/-- A sequence that has a value after a question: so has the question. -/
theorem runs_request_andThen_ok {α : Type} {operation : String} {r : Request}
    {next : r.Answer → Action α} {b : α} :
    Runs (andThen next (request operation r)) steps (some (.ok b)) ↔
      ∃ (answer : r.Answer) (rest : List (Step interface)),
        steps = .call r (some (.ok answer)) :: rest ∧ Runs (next answer) rest (some (.ok b)) := by
  rw [runs_request_andThen]
  constructor
  · rintro ⟨_ | (f | a), rest, rfl, h⟩
    · simp at h
    · simp at h
    · exact ⟨a, rest, rfl, h⟩
  · rintro ⟨a, rest, rfl, h⟩
    exact ⟨_, rest, rfl, h⟩

@[simp] theorem tell_andThen {α : Type} {level : Level} {message : String}
    {fields : List (String × String)} {next : Unit → Action α} :
    andThen next (w.tell level message fields) =
      .log ⟨level, message, ("workspace", w.resource) :: fields⟩ (next ()) := rfl

@[simp] theorem runs_tell {level : Level} {message : String} {fields : List (String × String)}
    {ending : Result Unit} :
    Runs (w.tell level message fields) steps ending ↔ steps = [] ∧ ending = some (.ok ()) :=
  runs_note

/-- Whatever the answers are, a program asks only what belongs to a stage. -/
def StaysIn {α : Type} (stage : Request.Stage) (x : Action α) : Prop :=
  AsksOnly (fun r : Request => r.stage = some stage) x

/-- Whether no pod is handled in some steps. -/
def IsPreliminary (steps : List (Step interface)) : Prop :=
  ∀ r a, .call r a ∈ steps → Request.stage r ≠ some .handling

/-- What belongs to the handling of pods is not asked in steps that handle none. -/
theorem IsPreliminary.timesAsked {kind : Request → Bool} (h : IsPreliminary steps)
    (hKind : ∀ r, kind r = true → r.stage = some .handling) : timesAsked kind steps = 0 := by
  rw [timesAsked_eq_zero]
  intro r a hMem
  rcases hAsked : kind r with _ | _
  · rfl
  · exact absurd (hKind r hAsked) (h r a hMem)

section AsksOnly

variable {P : Request → Prop}

theorem asksOnly_request {operation : String} {r : Request} (hP : P r) :
    AsksOnly P (request operation r) :=
  (asksOnly_ask (I := interface) hP).cancellable operation

theorem asksOnly_tell (level : Level) (message : String) (fields : List (String × String)) :
    AsksOnly P (w.tell level message fields) :=
  asksOnly_note _

end AsksOnly

section Inquires

variable {P : Request → Prop}

theorem inquires_request {operation : String} {r : Request} (hP : P r) :
    Inquires P (request operation r) :=
  (inquires_ask (I := interface) hP).cancellable operation

theorem inquires_tell (level : Level) (message : String) (fields : List (String × String)) :
    Inquires P (w.tell level message fields) :=
  inquires_note _

theorem inquires_podTemplate : Inquires P w.podTemplate := by
  unfold podTemplate
  split
  · exact inquires_done _
  · exact (inquires_note _).andThen fun _ => (inquires_ofExcept _).andThen fun _ => inquires_done _

theorem inquires_validatePod (plan : Plan) : Inquires P (w.validatePod plan) :=
  (inquires_ofLogged _).andThen fun _ => inquires_done _

theorem inquires_storedPlan (given : Option RunSpec) (stored : WorkspaceRecord) :
    Inquires P (w.storedPlan given stored) :=
  inquires_podTemplate.andThen fun _ => (inquires_validatePod _).andThen fun _ => inquires_done _

end Inquires

/-- Whether a program only asks, and asks only what belongs to a stage. -/
abbrev InquiresIn {α : Type} (stage : Request.Stage) (x : Action α) : Prop :=
  Inquires (fun r : Request => r.stage = some stage) x

/-! ### Opening -/

theorem inquiresIn_ensureNamespace : InquiresIn .opening w.ensureNamespace := by
  unfold ensureNamespace
  split
  · exact inquires_done ()
  · refine (inquires_note _).andThen fun _ =>
      Inquires.andThen (.attempt (inquires_request rfl)) fun r => ?_
    rcases r with f | a
    · exact inquires_note _
    · exact inquires_done ()

theorem inquires_findClaim : Inquires (fun r : Request => r = .getClaim w.resource) w.findClaim := by
  refine Inquires.andThen (inquires_request rfl) fun found => ?_
  rcases found with _ | claim
  · exact inquires_done _
  · exact (inquires_ofExcept _).andThen fun _ => inquires_done _

theorem inquiresIn_findClaim : InquiresIn .opening w.findClaim :=
  inquires_findClaim.mono fun _ h => h ▸ rfl

theorem inquiresIn_freshPlan (spec : RunSpec) : InquiresIn .opening (w.freshPlan spec) :=
  (inquires_ofLogged _).andThen fun _ => inquires_podTemplate.andThen fun _ =>
    (inquires_validatePod _).andThen fun _ => (inquires_tell _ _ _).andThen fun _ =>
      Inquires.andThen (inquires_request rfl) fun _ => inquires_done _

theorem inquiresIn_runPlan (given : Option RunSpec) : InquiresIn .opening (w.runPlan given) := by
  refine inquiresIn_ensureNamespace.andThen fun _ => inquiresIn_findClaim.andThen fun found => ?_
  rcases found with _ | ⟨claim, stored⟩
  · rcases given with _ | spec
    · exact inquires_fail _
    · exact inquiresIn_freshPlan spec
  · exact inquires_storedPlan given stored

theorem inquiresIn_startPlan : InquiresIn .opening w.startPlan := by
  refine inquiresIn_findClaim.andThen fun found => ?_
  rcases found with _ | ⟨claim, stored⟩
  · exact inquires_fail _
  · exact inquires_storedPlan none stored

/-! ### Preparing -/

/-- What may be asked to see to the service account of a workspace and to its role binding. -/
inductive IsForAccess (w : Workspace) : Request → Prop
  | getAccount (account : String) : IsForAccess w (.getServiceAccount account)
  | createAccount (account : String) :
      IsForAccess w (.createServiceAccount (Manifest.serviceAccount account w.namespace))
  | getBinding : IsForAccess w (.getRoleBinding w.resource)
  | createBinding (account role : String) :
      IsForAccess w (.createRoleBinding (Manifest.roleBinding w.name account role w.namespace))

theorem inquires_ensureAccount (account : String) :
    Inquires w.IsForAccess (w.ensureAccount account) := by
  refine Inquires.andThen (inquires_request (.getAccount account)) fun found => ?_
  rcases found with _ | found
  · exact (inquires_note _).andThen fun _ => inquires_request (.createAccount account)
  · exact inquires_note _

theorem inquires_ensureRoleBinding (account role : String) :
    Inquires w.IsForAccess (w.ensureRoleBinding account role) := by
  refine Inquires.andThen (inquires_request .getBinding) fun found => ?_
  rcases found with _ | found
  · exact (inquires_note _).andThen fun _ => inquires_request (.createBinding account role)
  · exact inquires_note _

theorem inquires_ensureServiceAccount : Inquires w.IsForAccess w.ensureServiceAccount := by
  unfold ensureServiceAccount
  split
  · exact inquires_done ()
  · refine (inquires_ensureAccount _).andThen fun _ => ?_
    split
    · exact inquires_done ()
    · exact inquires_ensureRoleBinding _ _

/-- What may be asked to see to the pull secret of a workspace. -/
inductive IsForSecret (w : Workspace) : Request → Prop
  | lookUp (registry : String) : IsForSecret w (.lookUp registry)
  | get : IsForSecret w (.getSecret w.name.pullSecret)
  | delete : IsForSecret w (.deleteSecret w.name.pullSecret)
  | create (content : Text.Bytes) :
      IsForSecret w (.createSecret (PullSecret.secret w.name.pullSecret w.namespace content))

theorem inquires_usableCredentials (registry : String) :
    Inquires w.IsForSecret (PullSecret.usableCredentials registry) := by
  refine Inquires.andThen (.attempt (inquires_ask (I := interface) (.lookUp registry))) fun r => ?_
  split
  · split
    · exact inquires_done _
    · exact (inquires_note _).andThen fun _ => inquires_done _
  · exact (inquires_note _).andThen fun _ => inquires_done _
  · exact (inquires_note _).andThen fun _ => inquires_done _

theorem inquires_createSecret (content : Text.Bytes) :
    Inquires w.IsForSecret (PullSecret.create w.name.pullSecret w.namespace content) :=
  Inquires.andThen (inquires_ask (I := interface) (.create content)) fun _ =>
    (inquires_note _).andThen fun _ => inquires_done _

theorem inquires_ensure (image : String) :
    Inquires w.IsForSecret (PullSecret.ensure w.name.pullSecret w.namespace image) := by
  refine (inquires_note _).andThen fun _ => (inquires_ofExcept _).andThen fun registry =>
    (inquires_usableCredentials registry).andThen fun found => ?_
  rcases found with _ | credentials
  · exact inquires_done _
  · refine Inquires.andThen (inquires_ask (I := interface) .get) fun existing => ?_
    rcases existing with _ | existing
    · exact inquires_createSecret _
    · dsimp only
      split
      · exact (inquires_note _).andThen fun _ => inquires_done _
      · exact (inquires_note _).andThen fun _ =>
          Inquires.andThen (inquires_ask (I := interface) .delete) fun _ => inquires_createSecret _

theorem inquires_ensurePullSecret (spec : RunSpec) :
    Inquires w.IsForSecret (w.ensurePullSecret spec) := by
  unfold ensurePullSecret
  split
  · exact ((inquires_ensure _).cancellable _).andThen fun _ => inquires_done _
  · exact inquires_done _

theorem inquires_detectionPods :
    Inquires (fun r : Request => r = .listPods w.name.detectionSelector) w.detectionPods := by
  refine Inquires.andThen (.attempt (inquires_request rfl)) fun r => ?_
  rcases r with f | names
  · dsimp only
    split
    · exact inquires_fail f
    · exact (inquires_note _).andThen fun _ => inquires_done _
  · exact inquires_done _

theorem inquires_affinityWorkspace {P : Request → Prop} (detection : List String) :
    Inquires P (w.affinityWorkspace detection) := by
  unfold affinityWorkspace
  split
  · exact (inquires_note _).andThen fun _ => inquires_done _
  · exact inquires_done _

/-- What may be asked to prepare the pod of a workspace. -/
def IsPreparation (w : Workspace) (r : Request) : Prop :=
  w.IsForAccess r ∨ w.IsForSecret r ∨ r = .listPods w.name.detectionSelector

theorem stage_of_isPreparation {r : Request} (h : w.IsPreparation r) :
    r.stage = some .preparing := by
  obtain (_ | _ | _ | _) | (_ | _ | _ | _) | rfl := h <;> rfl

theorem inquires_preparePod (spec : RunSpec) : Inquires w.IsPreparation (w.preparePod spec) :=
  (inquires_ensureServiceAccount.mono fun _ => .inl).andThen fun _ =>
    ((inquires_ensurePullSecret spec).mono fun _ h => .inr (.inl h)).andThen fun _ =>
      (inquires_detectionPods.mono fun _ h => .inr (.inr h)).andThen fun _ =>
        (inquires_affinityWorkspace _).andThen fun _ => inquires_done _

theorem inquiresIn_preparePod (spec : RunSpec) : InquiresIn .preparing (w.preparePod spec) :=
  (inquires_preparePod spec).mono fun _ => stage_of_isPreparation

theorem staysIn_preparePod (spec : RunSpec) : StaysIn .preparing (w.preparePod spec) :=
  (inquiresIn_preparePod spec).asksOnly

end Workspace

end PodWorkspace
