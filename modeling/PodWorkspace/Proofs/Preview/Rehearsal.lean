import PodWorkspace.Preview.Render
import PodWorkspace.Proofs.Cluster.Request
import PodWorkspace.Proofs.Program.Inquiry
import PodWorkspace.Proofs.Workspace.Stage

/-! What a rehearsal comes to. It follows one run of the program, the one in which each question is
answered as the recorder and the store of credentials do. So it is known part by part, and another run
that is answered in the same way has its ending and creates the objects that are written down. -/

namespace PodWorkspace.Preview

open Cluster Program

variable {α β : Type} {lookUp : String → Logged (Option Registry.Credentials)} {r : Recorder}
  {steps : List (Step interface)}

/-- The answer to a question in a rehearsal, and the recorder after it. -/
def reply (lookUp : String → Logged (Option Registry.Credentials)) (r : Recorder) :
    (q : Request) → Except Failure q.Answer × Recorder
  | .lookUp registry => ((lookUp registry).outcome, r)
  | q => ((r.answer q).1, (r.answer q).2.1)

/-- The ending of the run that a rehearsal follows, and the recorder after it. -/
def trial (lookUp : String → Logged (Option Registry.Credentials)) (r : Recorder) :
    Action α → Result α × Recorder
  | .done a => (some (.ok a), r)
  | .fail f => (some (.error f), r)
  | .cutOff => (none, r)
  | .log _ rest => trial lookUp r rest
  | .call _ q next => trial lookUp (reply lookUp r q).2 (next (some (reply lookUp r q).1))
  | .clock next => trial lookUp r (next ⟨0⟩)
  | .sleep _ _ next => trial lookUp r (next true)

/-- A rehearsal ends as its run does, and counts as cancelled when that is cut off. -/
theorem rehearse_eq_trial (lookUp : String → Logged (Option Registry.Credentials)) (r : Recorder)
    (x : Action α) :
    (rehearse lookUp r x).outcome = (trial lookUp r x).1.getD (.error (.cancelled "preview")) ∧
      (rehearse lookUp r x).recorder = (trial lookUp r x).2 := by
  induction x generalizing r with
  | done | fail | cutOff => exact ⟨rfl, rfl⟩
  | log e rest ih => exact ih r
  | call deadline q next ih =>
    have hNext := ih (some (reply lookUp r q).1) (reply lookUp r q).2
    cases q <;> exact hNext
  | clock next ih => exact ih ⟨0⟩ r
  | sleep deadline till next ih => exact ih true r

theorem exists_run_of_trial (lookUp : String → Logged (Option Registry.Credentials)) (r : Recorder)
    (x : Action α) : ∃ steps, Runs x steps (trial lookUp r x).1 ∧
      ∀ q a, .call q a ∈ steps → ∃ r', a = some (reply lookUp r' q).1 := by
  induction x generalizing r with
  | done a => exact ⟨_, .done a, by simp⟩
  | fail f => exact ⟨_, .fail f, by simp⟩
  | cutOff => exact ⟨_, .cutOff, by simp⟩
  | log e rest ih =>
    obtain ⟨steps, hRun, hAnswers⟩ := ih r
    exact ⟨steps, .log hRun, hAnswers⟩
  | call deadline q next ih =>
    obtain ⟨steps, hRun, hAnswers⟩ := ih (some (reply lookUp r q).1) (reply lookUp r q).2
    refine ⟨_, .call _ hRun, fun q' a hMem => ?_⟩
    rcases List.mem_cons.1 hMem with hHead | hMem
    · cases hHead
      exact ⟨r, rfl⟩
    · exact hAnswers q' a hMem
  | clock next ih =>
    obtain ⟨steps, hRun, hAnswers⟩ := ih ⟨0⟩ r
    exact ⟨_, .clock _ hRun, fun q a hMem => hAnswers q a (by simpa using hMem)⟩
  | sleep deadline till next ih =>
    obtain ⟨steps, hRun, hAnswers⟩ := ih true r
    exact ⟨_, .sleep _ hRun, fun q a hMem => hAnswers q a (by simpa using hMem)⟩

/-! ### Rehearsals part by part -/

theorem trial_onEnding (next : Result α → Action β) (x : Action α) :
    trial lookUp r (onEnding next x) =
      trial lookUp (trial lookUp r x).2 (next (trial lookUp r x).1) := by
  induction x generalizing r with
  | done | fail | cutOff => rfl
  | log e rest ih => exact ih
  | call deadline q k ih => exact ih _
  | clock k ih => exact ih _
  | sleep deadline till k ih => exact ih _

theorem trial_andThen (next : α → Action β) (x : Action α) :
    trial lookUp r (andThen next x) =
      trial lookUp (trial lookUp r x).2 (resume next (trial lookUp r x).1) := by
  rw [andThen_eq_onEnding, trial_onEnding]

theorem trial_attempt (x : Action α) :
    trial lookUp r (attempt x) = ((trial lookUp r x).1.map .ok, (trial lookUp r x).2) := by
  rw [attempt_eq_onEnding, trial_onEnding]
  cases (trial lookUp r x).1 <;> rfl

@[simp] theorem trial_fail (f : Failure) :
    trial lookUp r (.fail f : Action α) = (some (.error f), r) := rfl

@[simp] theorem trial_log (e : Event) (x : Action α) :
    trial lookUp r (.log e x) = trial lookUp r x := rfl

@[simp] theorem trial_now : trial lookUp r now = (some (.ok ⟨0⟩), r) := rfl

@[simp] theorem trial_ofExcept (x : Except Failure α) :
    trial lookUp r (ofExcept x) = (some x, r) := by
  cases x <;> rfl

theorem trial_cancellable (operation : String) (x : Action α) :
    trial lookUp r (cancellable operation x) =
      (some ((trial lookUp r x).1.getD (.error (.cancelled operation))), (trial lookUp r x).2) := by
  rw [cancellable_eq_onEnding, trial_onEnding, trial_ofExcept]

theorem trial_ask (q : Request) :
    trial lookUp r (ask (I := interface) q) = (some (reply lookUp r q).1, (reply lookUp r q).2) := by
  rw [ask, trial]
  cases hReply : (reply lookUp r q).1 <;> rfl

theorem trial_request (operation : String) (q : Request) :
    trial lookUp r (Workspace.request operation q) =
      (some (reply lookUp r q).1, (reply lookUp r q).2) := by
  rw [Workspace.request, trial_cancellable, trial_ask]
  rfl

theorem trial_request_andThen {operation : String} {q : Request} {next : q.Answer → Action α} :
    trial lookUp r (andThen next (Workspace.request operation q)) =
      trial lookUp (reply lookUp r q).2 (resume next (some (reply lookUp r q).1)) := by
  rw [trial_andThen, trial_request]

/-! ### Runs that are answered as rehearsals are -/

/-- A step that is answered as by a cluster which has none of the objects that are asked for and does
all it is told. Credentials are not kept in the cluster. -/
inductive IsVacant (lookUp : String → Logged (Option Registry.Credentials)) : Step interface → Prop
  | claim (name : String) : IsVacant lookUp (.call (.getClaim name) (some (.ok none)))
  | account (name : String) : IsVacant lookUp (.call (.getServiceAccount name) (some (.ok none)))
  | binding (name : String) : IsVacant lookUp (.call (.getRoleBinding name) (some (.ok none)))
  | secret (name : String) : IsVacant lookUp (.call (.getSecret name) (some (.ok none)))
  | pod (name : String) : IsVacant lookUp (.call (.getPod name) (some (.ok none)))
  | pods (selector : String) :
      IsVacant lookUp (.call (.listPods selector) (some (.ok ([] : List String))))
  | change {q : Request} (hChanges : q.changesObjects = true) (a : q.Answer) :
      IsVacant lookUp (.call q (some (.ok a)))
  | credentials (registry : String) :
      IsVacant lookUp (.call (.lookUp registry) (some (lookUp registry).outcome))
  | clock (now : Duration) : IsVacant lookUp (.clock now)
  | sleep (till : Duration) (slept : Bool) : IsVacant lookUp (.sleep till slept)

/-- What a launch may ask is answered so in a rehearsal. -/
theorem isVacant_reply {q : Request} (hStage : q.stage ≠ none) :
    IsVacant lookUp (.call q (some (reply lookUp r q).1)) := by
  cases q with
  | getClaim name => exact .claim name
  | getServiceAccount name => exact .account name
  | getRoleBinding name => exact .binding name
  | getSecret name => exact .secret name
  | getPod name => exact .pod name
  | listPods selector => exact .pods selector
  | lookUp registry => exact .credentials registry
  | deleteClaim | podLogs | exec | deleteRoleBinding => exact absurd rfl hStage
  | _ => exact .change rfl _

/-- The object that a step creates, when it is one of a workspace. -/
def created? : Step interface → Option Captured
  | .call (.createClaim c) _ => some (.claim c)
  | .call (.createServiceAccount a) _ => some (.account a)
  | .call (.createRoleBinding b) _ => some (.binding b)
  | .call (.createSecret s) _ => some (.secret s)
  | .call (.createPod p) _ => some (.pod p)
  | _ => none

/-- The objects that some steps create, in their order. -/
def created (steps : List (Step interface)) : List Captured := steps.filterMap created?

def written : Captured → Captured
  | .secret s => .secret (redacted s)
  | object => object

/-- The objects that some steps create as a recorder writes them down. -/
def shown (steps : List (Step interface)) : List Captured := (created steps).map written

@[simp] theorem shown_nil : shown [] = [] := rfl

@[simp] theorem shown_append (before after : List (Step interface)) :
    shown (before ++ after) = shown before ++ shown after := by
  simp [shown, created]

theorem shown_cons (step : Step interface) (steps : List (Step interface)) :
    shown (step :: steps) = shown [step] ++ shown steps :=
  shown_append [step] steps

theorem shown_eq_nil (h : ∀ step ∈ steps, created? step = none) : shown steps = [] := by
  rw [shown, created, List.filterMap_eq_nil_iff.2 h, List.map_nil]

theorem reply_of_isVacant {q : Request} {a : Result q.Answer} (h : IsVacant lookUp (.call q a)) :
    a = some (reply lookUp r q).1 ∧ (reply lookUp r q).2 = ⟨r.objects ++ shown [.call q a]⟩ := by
  have hIdle {step : Step interface} (hNone : created? step = none) :
      r = ⟨r.objects ++ shown [step]⟩ := by
    rw [shown_eq_nil (by simp [hNone]), List.append_nil]
  cases h with
  | claim | account | binding | secret | pod | pods | credentials => exact ⟨rfl, hIdle rfl⟩
  | change hChanges a =>
    cases q with
    | createClaim | createServiceAccount | createRoleBinding | createSecret | createPod =>
      exact ⟨rfl, rfl⟩
    | createNamespace | deleteClaim | deletePod | deletePodAndWait | forceDeletePods | deleteSecret
    | deleteRoleBinding => exact ⟨rfl, hIdle rfl⟩
    | _ => cases hChanges

theorem trial_of_calls {x : Action α} {ending : Result α} (h : Runs x steps ending)
    (hCalls : ∀ step ∈ steps, ∃ q a, step = .call q a)
    (hVacant : ∀ step ∈ steps, IsVacant lookUp step) :
    trial lookUp r x = (ending, ⟨r.objects ++ shown steps⟩) := by
  induction h generalizing r with
  | done | fail | cutOff => simp [trial]
  | log _ ih => exact ih hCalls hVacant
  | @call deadline q next rest ending answer _ ih =>
    obtain ⟨rfl, hRecorder⟩ := reply_of_isVacant (r := r) (hVacant _ List.mem_cons_self)
    rw [trial, ih (fun step hMem => hCalls step (List.mem_cons_of_mem _ hMem))
      fun step hMem => hVacant step (List.mem_cons_of_mem _ hMem), hRecorder, shown_cons _ rest,
      List.append_assoc]
  | clock now =>
    obtain ⟨q, a, hCall⟩ := hCalls _ List.mem_cons_self
    cases hCall
  | sleep slept =>
    obtain ⟨q, a, hCall⟩ := hCalls _ List.mem_cons_self
    cases hCall

/-- A run that only asks and is answered as a rehearsal is ends as the rehearsal does and creates the
objects that are written down. -/
theorem trial_of_runs {P : Request → Prop} {x : Action α} {ending : Result α} (hAsks : Inquires P x)
    (h : Runs x steps ending) (hVacant : ∀ step ∈ steps, IsVacant lookUp step) :
    trial lookUp r x = (ending, ⟨r.objects ++ shown steps⟩) := by
  refine trial_of_calls h (fun step hMem => ?_) hVacant
  obtain ⟨q, a, hCall, -⟩ := hAsks.asks h step hMem
  exact ⟨q, a, hCall⟩

end PodWorkspace.Preview
