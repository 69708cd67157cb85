import PodWorkspace.Preview.Render
import PodWorkspace.Proofs.Preview.Rehearsal
import PodWorkspace.Proofs.PullSecret.Sync
import PodWorkspace.Proofs.Simulation.Follow
import PodWorkspace.Proofs.Workspace.Handling

/-! What a preview has to do with the credentials that are stored locally. They are looked up in one
place, where they decide whether there is to be a pull secret, and of its content the recorder keeps
nothing. So all stores for which that decision is the same have one preview. -/

namespace PodWorkspace.Preview

open Cluster Program

variable {α β : Type} {w : Workspace} {r : Recorder} {registry image name «namespace» : String}
  {lookUp l₁ l₂ : String → Logged (Option Registry.Credentials)}

/-! ### Programs for which the store makes no difference -/

/-- Whether a program is rehearsed alike with two stores of credentials. -/
def Agree (l₁ l₂ : String → Logged (Option Registry.Credentials)) (x : Action α) : Prop :=
  ∀ r, trial l₁ r x = trial l₂ r x

theorem Agree.rehearse_eq {x : Action α} (h : Agree l₁ l₂ x) (r : Recorder) :
    (rehearse l₁ r x).outcome = (rehearse l₂ r x).outcome ∧
      (rehearse l₁ r x).recorder = (rehearse l₂ r x).recorder := by
  obtain ⟨hOutcome₁, hRecorder₁⟩ := rehearse_eq_trial l₁ r x
  obtain ⟨hOutcome₂, hRecorder₂⟩ := rehearse_eq_trial l₂ r x
  constructor
  · rw [hOutcome₁, hOutcome₂, h r]
  · rw [hRecorder₁, hRecorder₂, h r]

theorem agree_done (a : α) : Agree l₁ l₂ (.done a) := fun _ => rfl

/-- The second part matters only for the values that the first part can have. -/
theorem Agree.andThen {x : Action α} {next : α → Action β} (h : Agree l₁ l₂ x)
    (hNext : ∀ ⦃steps a⦄, Runs x steps (some (.ok a)) → Agree l₁ l₂ (next a)) :
    Agree l₁ l₂ (andThen next x) := by
  intro r
  obtain ⟨steps, hRun, -⟩ := exists_run_of_trial l₁ r x
  rw [trial_andThen, trial_andThen, ← h r]
  rcases hEnding : (trial l₁ r x).1 with _ | (f | a)
  · rfl
  · rfl
  · rw [hEnding] at hRun
    exact hNext hRun _

theorem Agree.cancellable {x : Action α} (h : Agree l₁ l₂ x) (operation : String) :
    Agree l₁ l₂ (cancellable operation x) := by
  intro r
  rw [trial_cancellable, trial_cancellable, h r]

theorem reply_of_not_lookUp {q : Request} (h : q.isLookUp = false) :
    reply l₁ r q = reply l₂ r q := by
  cases q <;> first | rfl | cases h

/-- A program that looks up no credentials. -/
theorem agree_of_asksOnly {x : Action α}
    (h : AsksOnly (fun q : Request => q.isLookUp = false) x) : Agree l₁ l₂ x := by
  intro r
  induction x generalizing r with
  | done | fail | cutOff => rfl
  | log e rest ih => exact ih (fun _ _ hRun => h (.log hRun)) r
  | call deadline q next ih =>
    have hNext (a) : AsksOnly (fun q : Request => q.isLookUp = false) (next a) :=
      fun _ _ hRun q' a' hMem => h (.call a hRun) q' a' (List.mem_cons_of_mem _ hMem)
    have hAsked : q.isLookUp = false := by
      obtain ⟨steps, hRun, -⟩ := exists_run_of_trial l₁ r (next none)
      exact h (.call none hRun) q _ List.mem_cons_self
    rw [trial, trial, reply_of_not_lookUp hAsked]
    exact ih _ (hNext _) _
  | clock next ih =>
    exact ih ⟨0⟩ (fun _ _ hRun q a hMem => h (.clock _ hRun) q a (List.mem_cons_of_mem _ hMem)) r
  | sleep deadline till next ih =>
    exact ih true (fun _ _ hRun q a hMem => h (.sleep _ hRun) q a (List.mem_cons_of_mem _ hMem)) r

/-! ### The pull secret in a rehearsal -/

/-- Whether a store answers for a registry with credentials that are complete. -/
def HasCredentials (lookUp : String → Logged (Option Registry.Credentials)) (registry : String) :
    Prop :=
  ∃ c : Registry.Credentials, (lookUp registry).outcome = .ok (some c) ∧ c.secret ≠ ""

theorem usable_eq_none_iff :
    PullSecret.usable (lookUp registry).outcome = none ↔ ¬HasCredentials lookUp registry := by
  unfold HasCredentials
  rcases (lookUp registry).outcome with f | _ | c <;>
    simp [PullSecret.usable, Registry.Credentials.isComplete, Option.filter]

theorem trial_usableCredentials :
    trial lookUp r (PullSecret.usableCredentials registry) =
      (some (.ok (PullSecret.usable (lookUp registry).outcome)), r) := by
  rw [PullSecret.usableCredentials, bind_eq_andThen, trial_andThen, trial_attempt, trial_ask]
  simp only [reply]
  rcases (lookUp registry).outcome with f | _ | c
  · rfl
  · rfl
  · show trial lookUp r (if c.isComplete = true then _ else _) = _
    rw [PullSecret.usable, Option.filter_some]
    split
    · rfl
    · rfl

/-- What is written down of a secret does not depend on what it holds. -/
theorem trial_create (content other : Text.Bytes) :
    trial l₁ r (PullSecret.create name «namespace» content) =
      trial l₂ r (PullSecret.create name «namespace» other) := rfl

/-- Whether two stores answer for the registry of an image in the same way, both with complete
credentials or both without. -/
def SameAnswers (l₁ l₂ : String → Logged (Option Registry.Credentials)) (image : String) : Prop :=
  ∀ registry, Registry.imageRegistry image = .ok registry →
    (HasCredentials l₁ registry ↔ HasCredentials l₂ registry)

/-- Only the registry of the image is looked up, and none for an image without one. -/
theorem agree_ensure (h : SameAnswers l₁ l₂ image) :
    Agree l₁ l₂ (PullSecret.ensure name «namespace» image) := by
  intro r
  rw [PullSecret.ensure, bind_eq_andThen, note_andThen, trial_log, trial_log, bind_eq_andThen,
    trial_andThen, trial_andThen, trial_ofExcept, trial_ofExcept]
  rcases hRegistry : Registry.imageRegistry image with f | registry
  · rfl
  · have hUsable := not_congr (h registry hRegistry)
    rw [← usable_eq_none_iff, ← usable_eq_none_iff] at hUsable
    rw [resume_ok, bind_eq_andThen, trial_andThen, trial_andThen, trial_usableCredentials,
      trial_usableCredentials]
    rcases h₁ : PullSecret.usable (l₁ registry).outcome with _ | c₁ <;>
      rcases h₂ : PullSecret.usable (l₂ registry).outcome with _ | c₂
    · rfl
    · simp [h₁, h₂] at hUsable
    · simp [h₁, h₂] at hUsable
    · exact trial_create (PullSecret.contentFor registry c₁) (PullSecret.contentFor registry c₂)

/-! ### The preview -/

theorem agree_ensurePullSecret {spec : RunSpec} (h : SameAnswers l₁ l₂ (w.setting.image spec)) :
    Agree l₁ l₂ (w.ensurePullSecret spec) := by
  unfold Workspace.ensurePullSecret
  split
  · exact ((agree_ensure h).cancellable _).andThen fun _ _ _ => agree_done _
  · exact agree_done _

theorem agree_preparePod {spec : RunSpec} (h : SameAnswers l₁ l₂ (w.setting.image spec)) :
    Agree l₁ l₂ (w.preparePod spec) := by
  have hAccess : Agree l₁ l₂ w.ensureServiceAccount :=
    agree_of_asksOnly <| Workspace.inquires_ensureServiceAccount.asksOnly.mono fun _ hAccess => by
      cases hAccess <;> rfl
  have hDetection : Agree l₁ l₂ w.detectionPods :=
    agree_of_asksOnly <| Workspace.inquires_detectionPods.asksOnly.mono fun _ hList => hList ▸ rfl
  have hPlace (detection : List String) : Agree l₁ l₂ (w.affinityWorkspace detection) :=
    agree_of_asksOnly (Workspace.inquires_affinityWorkspace _).asksOnly
  exact hAccess.andThen fun _ _ _ => (agree_ensurePullSecret h).andThen fun _ _ _ =>
    hDetection.andThen fun _ detection _ => (hPlace detection).andThen fun _ _ _ => agree_done _

theorem agree_run {spec : RunSpec} (h : SameAnswers l₁ l₂ (w.setting.image spec)) :
    Agree l₁ l₂ (w.run (some spec)) := by
  have hOutside {α : Type} {stage : Request.Stage} {x : Action α} (hStage : stage ≠ .preparing)
      (hAsks : Workspace.StaysIn stage x) : Agree l₁ l₂ x :=
    agree_of_asksOnly <| hAsks.mono fun q hBelongs => by
      cases q <;> first | rfl | exact absurd (Option.some.inj hBelongs).symm hStage
  have hOpening : Agree l₁ l₂ (w.runPlan (some spec)) :=
    hOutside (by decide) (Workspace.inquiresIn_runPlan _).asksOnly
  refine hOpening.andThen fun steps plan hPlan => ?_
  have hSpec : plan.spec = spec :=
    (Launch.spec_and_template_of_plan (l := .run (some spec)) hPlan).1 spec rfl
  refine (agree_preparePod (hSpec ▸ h)).andThen fun _ prepared _ => ?_
  exact (agree_of_asksOnly (asksOnly_ofLogged _)).andThen fun _ pod _ =>
    hOutside (by decide) Workspace.staysIn_replacePod

/-- A preview does not depend on the credentials that are stored. Between two stores that both have
complete credentials for the registry of its image, or that both have none, it shows the same
manifests and has the same error. -/
theorem render_eq_of_sameAnswers (h : SameAnswers l₁ l₂ (w.setting.image placeholderSpec))
    (isVerbose isVerbose' : Bool) :
    (render w l₁ isVerbose).manifests = (render w l₂ isVerbose').manifests ∧
      (render w l₁ isVerbose).error = (render w l₂ isVerbose').error := by
  obtain ⟨hOutcome, hRecorder⟩ := (agree_run h).rehearse_eq {}
  exact ⟨congrArg Recorder.stream hRecorder, congrArg errorOf hOutcome⟩

/-- A store that has the same credentials for all registries. -/
def storeOf (credentials : Registry.Credentials) (_ : String) :
    Logged (Option Registry.Credentials) :=
  .ofExcept (.ok (some credentials))

/-- The image of a preview has a registry, and what is shown of the pull secret is the same for one
user as for another. -/
theorem render_eq_for_two_users :
    (Registry.imageRegistry (Workspace.notes.setting.image placeholderSpec)).isOk = true ∧
      (render .notes (storeOf ⟨"https://registry.example", "ada", "hush"⟩) true).manifests =
        (render .notes (storeOf ⟨"", "", "42"⟩) false).manifests ∧
      (render .notes (storeOf ⟨"https://registry.example", "ada", "hush"⟩) true).error =
        (render .notes (storeOf ⟨"", "", "42"⟩) false).error :=
  ⟨by decide +kernel,
    render_eq_of_sameAnswers (fun _ _ => iff_of_true ⟨_, rfl, by decide⟩ ⟨_, rfl, by decide⟩) _ _⟩

end PodWorkspace.Preview
