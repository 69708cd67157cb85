import Mathlib.Data.List.Forall2
import PodWorkspace.Proofs.Dict
import PodWorkspace.Proofs.Preview.Rehearsal
import PodWorkspace.Proofs.Simulation.Follow
import PodWorkspace.Proofs.Workspace.Handling

/-! What a preview has to do with the run that it stands for. Up to its pod a launch only asks, and a
cluster that has nothing of the workspace answers it as the recorder does; so the preview shows what
that run creates, and it fails where the run fails before it waits for its pod. -/

namespace PodWorkspace.Preview

open Cluster Program

variable {w : Workspace} {lookUp : String → Logged (Option Registry.Credentials)} {r : Recorder}
  {steps before after : List (Step interface)} {ending : Result Unit} {pod : Pod}
  {detection : List String}

/-! ### The handling of the pod in a rehearsal -/

/-- The recorder has no pod, so a wait for one is over at once. -/
theorem trial_poll {name : String} {timeout started due : Duration} {policy : CompletedPodPolicy}
    {polls : Nat} {throttle : Throttle} :
    trial lookUp r (Readiness.poll name timeout policy started (polls + 1) due throttle) =
      (some (.ok .gone), r) := rfl

theorem trial_wait {name : String} {timeout : Duration} {policy : CompletedPodPolicy} :
    trial lookUp r (Readiness.wait name timeout policy) = (some (.ok .gone), r) := by
  rw [Readiness.wait, bind_eq_andThen, trial_andThen, trial_now, resume_ok, trial_poll]

theorem trial_settlePod : trial lookUp r (w.settlePod detection) = (some (.ok ()), r) := by
  rw [Workspace.settlePod, bind_eq_andThen, Workspace.tell_andThen, trial_log, bind_eq_andThen,
    trial_andThen, Workspace.waitFor, trial_wait]
  cases detection with
  | nil => rfl
  | cons found more => rfl

theorem trial_createPod : trial lookUp r (w.createPod pod detection) =
    (some (.ok ()), ⟨r.objects ++ [.pod (w.stamped pod)]⟩) := by
  rw [Workspace.createPod, bind_eq_andThen, Workspace.tell_andThen, trial_log]
  exact trial_request_andThen.trans trial_settlePod

theorem trial_replacePod : trial lookUp r (w.replacePod pod detection) =
    (some (.ok ()), ⟨r.objects ++ [.pod (w.stamped pod)]⟩) :=
  trial_request_andThen.trans trial_createPod

/-! ### The handling of the pod in a run -/

/-- Whether a run is answered as a rehearsal is until it has created a pod. What it is answered after
that does not matter. -/
def Vacant (lookUp : String → Logged (Option Registry.Credentials)) : List (Step interface) → Prop
  | [] => True
  | step :: rest =>
    IsVacant lookUp step ∧ (step.asks Request.createsPod = true ∨ Vacant lookUp rest)

theorem vacant_cons {step : Step interface} {rest : List (Step interface)} :
    Vacant lookUp (step :: rest) ↔
      IsVacant lookUp step ∧ (step.asks Request.createsPod = true ∨ Vacant lookUp rest) := .rfl

theorem Vacant.of_append (h : Vacant lookUp (before ++ after))
    (hNone : timesAsked Request.createsPod before = 0) :
    (∀ step ∈ before, IsVacant lookUp step) ∧ Vacant lookUp after := by
  induction before with
  | nil => exact ⟨by simp, h⟩
  | cons step before ih =>
    rw [timesAsked_cons] at hNone
    obtain ⟨hStep, hAsks | hRest⟩ := vacant_cons.1 h
    · simp [hAsks] at hNone
    · obtain ⟨hBefore, hAfter⟩ := ih hRest (by omega)
      exact ⟨List.forall_mem_cons.2 ⟨hStep, hBefore⟩, hAfter⟩

theorem vacant_of_forall (h : ∀ step ∈ steps, IsVacant lookUp step) : Vacant lookUp steps := by
  induction steps with
  | nil => trivial
  | cons step rest ih =>
    rw [List.forall_mem_cons] at h
    exact vacant_cons.2 ⟨h.1, .inr (ih h.2)⟩

theorem answer_getPod {name : String} {a : Result (Option Pod)}
    (h : IsVacant lookUp (.call (.getPod name) a)) : a = some (.ok none) := by
  cases h with
  | pod => rfl
  | change hChanges => cases hChanges

theorem answer_createPod {a : Result Unit} (h : IsVacant lookUp (.call (.createPod pod) a)) :
    a = some (.ok ()) := by
  cases h
  rfl

/-- Where there is no pod the one that was built is created, and then waited for. -/
theorem created_of_replaces (h : w.Replaces pod detection steps ending)
    (hVacant : Vacant lookUp steps) :
    ∃ waiting, steps = [.call (.getPod w.resource) (some (.ok none)),
        .call (.createPod (w.stamped pod)) (some (.ok ()))] ++ waiting ∧
      Runs (w.settlePod detection) waiting ending := by
  cases h with
  | unseen hAnswer => exact absurd (answer_getPod (vacant_cons.1 hVacant).1) (hAnswer none)
  | current | undeleted | replaced => cases answer_getPod (vacant_cons.1 hVacant).1
  | absent hCreate =>
    obtain ⟨answer, waiting, rfl, hRest⟩ := Workspace.runs_request_andThen.1 (runs_log.1 hCreate)
    obtain ⟨-, hAsks | hLater⟩ := vacant_cons.1 hVacant
    · cases hAsks
    · obtain rfl := answer_createPod (vacant_cons.1 hLater).1
      exact ⟨waiting, rfl, hRest⟩

/-- No object is created while a pod is waited for. -/
theorem shown_settlePod (h : Runs (w.settlePod detection) steps ending) :
    shown steps = [] ∧ timesAsked Request.createsPod steps = 0 := by
  constructor
  · refine shown_eq_nil fun step hMem => ?_
    cases step with
    | call r a => obtain (rfl | rfl) | rfl := Workspace.asksOnly_settlePod h r a hMem <;> rfl
    | clock | sleep => rfl
  · refine Workspace.asksOnly_settlePod.timesAsked h fun r hAftercare => ?_
    obtain (rfl | rfl) | rfl := hAftercare <;> rfl

/-! ### The preview and the run -/

/-- Whether a run gets to its wait for the pod. -/
def GetsToWait (w : Workspace) (steps : List (Step interface)) (ending : Result Unit) : Prop :=
  ∃ before pod detection waiting, steps = before ++ .call (.createPod pod) (some (.ok ())) :: waiting ∧
    Runs (w.settlePod detection) waiting ending

/-- A run fails before it creates a pod, and its rehearsal fails in the same way, or it gets to its
wait, and its rehearsal succeeds. -/
theorem trial_of_run {spec : RunSpec} (h : Runs (w.run (some spec)) steps ending)
    (hVacant : Vacant lookUp steps) :
    (timesAsked Request.createsPod steps = 0 ∧ ∃ f, ending = some (.error f) ∧
        trial lookUp r (w.run (some spec)) =
          (some (.error f), ⟨r.objects ++ shown steps⟩)) ∨
      (0 < timesAsked Request.createsPod steps ∧ GetsToWait w steps ending ∧
        trial lookUp r (w.run (some spec)) = (some (.ok ()), ⟨r.objects ++ shown steps⟩)) := by
  have hProgram : w.run (some spec) = andThen (fun built => w.replacePod built.1 built.2)
      ((Launch.run (some spec)).build w) := Launch.program_eq_build (.run (some spec))
  rw [hProgram] at h ⊢
  obtain ⟨building, built, rest, rfl, hBuild, hReplace⟩ := runs_andThen.1 h
  have hInquires := (Launch.run (some spec)).inquires_build (w := w)
  have hNone : timesAsked Request.createsPod building = 0 :=
    hInquires.asksOnly.timesAsked hBuild fun q hStage => by
      cases q with
      | createPod pod => rcases hStage with hStage | hStage <;> cases hStage
      | _ => rfl
  obtain ⟨hBuilding, hRest⟩ := hVacant.of_append hNone
  rw [trial_andThen, trial_of_runs hInquires hBuild hBuilding]
  rcases built with _ | (f | ⟨pod, detection⟩)
  · obtain ⟨q, hMem⟩ := hInquires.ends hBuild
    cases hBuilding _ hMem
  · obtain ⟨rfl, rfl⟩ := runs_fail.1 hReplace
    exact .inl ⟨by simpa using hNone, f, rfl, by simp⟩
  · obtain ⟨waiting, rfl, hWait⟩ := created_of_replaces (Workspace.replaces_of_runs hReplace) hRest
    obtain ⟨hNothing, hNoPods⟩ := shown_settlePod hWait
    refine .inr ⟨?_, ⟨building ++ [.call (.getPod w.resource) (some (.ok none))], w.stamped pod,
      detection, waiting, by simp, hWait⟩, ?_⟩
    · have hCreates : timesAsked (I := interface) Request.createsPod
          [.call (.getPod w.resource) (some (.ok none)),
            .call (.createPod (w.stamped pod)) (some (.ok ()))] = 1 := rfl
      rw [timesAsked_append, timesAsked_append, hCreates]
      omega
    · have hCreated : shown [.call (.getPod w.resource) (some (.ok none)),
          .call (.createPod (w.stamped pod)) (some (.ok ()))] =
          [.pod (w.stamped pod)] := rfl
      rw [resume_ok, trial_replacePod, shown_append, shown_append, hNothing, hCreated,
        List.append_nil, List.append_assoc]

/-- What is shown of a secret: all but its content, and of that only the keys. -/
structure Redacts (secret shown : Secret) : Prop where
  metadata : shown.metadata = secret.metadata
  type : shown.type = secret.type
  immutable : shown.immutable = secret.immutable
  data : shown.data = none
  keys : ∀ key, (shown.stringData.bind (·.get? key)).isSome = true ↔
    (secret.data.bind (·.get? key)).isSome = true ∨
      (secret.stringData.bind (·.get? key)).isSome = true
  texts : ∀ key text, shown.stringData.bind (·.get? key) = some text → text = redactedText

theorem redacts_redacted (secret : Secret) : Redacts secret (redacted secret) := by
  have hKeys {α : Type} (d : Option (Dict α)) (key : String) :
      key ∈ (d.map (·.keys)).getD [] ↔ (d.bind (·.get? key)).isSome = true := by
    cases d with
    | none => simp
    | some d => exact Dict.mem_keys
  have hShown (key : String) : (redacted secret).stringData.bind (·.get? key) =
      if (secret.data.bind (·.get? key)).isSome = true ∨
        (secret.stringData.bind (·.get? key)).isSome = true then some redactedText else none := by
    simp only [redacted, Option.bind_some, Dict.get?_ofList_map, List.mem_append, hKeys]
  refine ⟨rfl, rfl, rfl, rfl, fun key => ?_, fun key text hText => ?_⟩
  · rw [hShown]
    split <;> simp_all
  · rw [hShown] at hText
    split at hText
    · exact (Option.some.inj hText).symm
    · cases hText

/-- How an object that is created stands in a preview: a secret without its content, and any other
object as it is. -/
inductive Shows : Captured → Captured → Prop
  | claim (c : VolumeClaim) : Shows (.claim c) (.claim c)
  | account (a : ServiceAccount) : Shows (.account a) (.account a)
  | binding (b : RoleBinding) : Shows (.binding b) (.binding b)
  | secret {s s' : Secret} (hRedacts : Redacts s s') : Shows (.secret s) (.secret s')
  | pod (p : Pod) : Shows (.pod p) (.pod p)

theorem shows_written (object : Captured) : Shows object (written object) := by
  cases object with
  | claim c => exact .claim c
  | account a => exact .account a
  | binding b => exact .binding b
  | secret s => exact .secret (redacts_redacted s)
  | pod p => exact .pod p

theorem forall₂_shown (steps : List (Step interface)) :
    List.Forall₂ Shows (created steps) (shown steps) := by
  rw [shown, List.forall₂_map_right_iff, List.forall₂_same]
  exact fun object _ => shows_written object

/-- A preview shows, as one document each, the objects that the run creates in a cluster which has none
of the workspace's, in the same order and with nothing of the content of secrets. It has the error of
that run when the run fails before it gets to its wait, and none when the run gets there. -/
theorem objects_of_render (h : Runs (w.run (some placeholderSpec)) steps ending)
    (hVacant : Vacant lookUp steps) (isVerbose : Bool) :
    ∃ objects, List.Forall₂ Shows (created steps) objects ∧
      (rehearse lookUp {} (w.run (some placeholderSpec))).recorder.objects = objects ∧
      (render w lookUp isVerbose).manifests = Text.join "\n---\n"
        (objects.map fun object => Text.trim (Yaml.documentText object.toJson)) ∧
      (∀ f, (render w lookUp isVerbose).error = some f ↔
        ending = some (.error f) ∧ timesAsked Request.createsPod steps = 0) ∧
      ((render w lookUp isVerbose).error = none ↔ GetsToWait w steps ending) := by
  obtain ⟨hOutcome, hRecorder⟩ := rehearse_eq_trial lookUp {} (w.run (some placeholderSpec))
  have hError : (render w lookUp isVerbose).error =
      errorOf (rehearse lookUp {} (w.run (some placeholderSpec))).outcome := rfl
  have hManifests : (render w lookUp isVerbose).manifests =
      (rehearse lookUp {} (w.run (some placeholderSpec))).recorder.stream := rfl
  have hStream : Recorder.stream ⟨shown steps⟩ = Text.join "\n---\n"
      ((shown steps).map fun object => Text.trim (Yaml.documentText object.toJson)) := by
    rw [Recorder.stream, Recorder.manifests, List.map_map]
    rfl
  refine ⟨shown steps, forall₂_shown steps, ?_⟩
  rw [hError, hManifests, hOutcome, hRecorder, ← hStream]
  obtain ⟨hNone, f, rfl, hTrial⟩ | ⟨hSome, hWait, hTrial⟩ := trial_of_run (r := {}) h hVacant
  · have hNoWait : ¬GetsToWait w steps (some (.error f)) := by
      rintro ⟨before, pod, detection, waiting, rfl, -⟩
      simp [Request.createsPod] at hNone
    rw [hTrial]
    exact ⟨by simp, by simp, by simp [errorOf, hNone], by simp [errorOf, hNoWait]⟩
  · have hCreates : timesAsked Request.createsPod steps ≠ 0 := by omega
    rw [hTrial]
    exact ⟨by simp, by simp, by simp [errorOf, hCreates], by simp [errorOf, hWait]⟩

theorem exists_vacant_run (lookUp : String → Logged (Option Registry.Credentials)) (w : Workspace)
    (spec : RunSpec) : ∃ steps ending, Runs (w.run (some spec)) steps ending ∧ Vacant lookUp steps := by
  obtain ⟨steps, hRun, hAnswers⟩ := exists_run_of_trial lookUp {} (w.run (some spec))
  have hAsks : AsksOnly (fun q : Request => q.stage ≠ none) (w.run (some spec)) :=
    ((Workspace.inquiresIn_runPlan (some spec)).asksOnly.mono fun q hStage => by simp [hStage]).andThen
      fun plan => (Workspace.asksOnly_applyPod plan).mono fun q hStage => by
        rcases hStage with hStage | hStage <;> simp [hStage]
  refine ⟨steps, _, hRun, vacant_of_forall fun step hMem => ?_⟩
  cases step with
  | call q a =>
    obtain ⟨r, rfl⟩ := hAnswers q a hMem
    exact isVacant_reply (hAsks hRun q _ hMem)
  | clock now => exact .clock now
  | sleep till slept => exact .sleep till slept

/-- The credentials of a world, as a preview looks them up. -/
def credentialsOf (around : Simulation.Surroundings) (registry : String) :
    Logged (Option Registry.Credentials) :=
  .ofExcept (Simulation.Store.lookUp around registry)

/-- The preview of a workspace with a pull secret shows its four objects, the secret without what the
run puts into it. -/
theorem objects_of_render_of_notes :
    ∃ steps ending objects, Runs (Workspace.notes.run (some placeholderSpec)) steps ending ∧
      Vacant (credentialsOf .trusted) steps ∧ List.Forall₂ Shows (created steps) objects ∧
      objects.map (·.kind) = ["PersistentVolumeClaim", "ServiceAccount", "Secret", "Pod"] ∧
      GetsToWait .notes steps ending := by
  obtain ⟨steps, ending, hRun, hVacant⟩ :=
    exists_vacant_run (credentialsOf .trusted) .notes placeholderSpec
  obtain ⟨objects, hShows, rfl, -, -, hWait⟩ := objects_of_render hRun hVacant false
  have hKinds : (rehearse (credentialsOf .trusted) {}
      (Workspace.notes.run (some placeholderSpec))).recorder.objects.map (·.kind) =
        ["PersistentVolumeClaim", "ServiceAccount", "Secret", "Pod"] := by decide +kernel
  have hError : (render .notes (credentialsOf .trusted) false).error = none := by decide +kernel
  exact ⟨steps, ending, _, hRun, hVacant, hShows, hKinds, hWait.1 hError⟩

end PodWorkspace.Preview
