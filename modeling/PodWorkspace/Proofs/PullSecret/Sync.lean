import PodWorkspace.Proofs.Program.Runs
import PodWorkspace.PullSecret.Sync

/-! How the pull secret of a workspace is seen to, and when its pod can use it. That is decided by the
credentials for the registry of its image alone: once they are complete the secret ends up with them,
whatever it held before. -/

namespace PodWorkspace

open Cluster Program

namespace PullSecret

variable {steps : List (Step interface)} {name «namespace» image registry : String}

/-- The credentials that an answer to a lookup gives, if they can be used. -/
def usable : Except Failure (Option Registry.Credentials) → Option Registry.Credentials
  | .ok found => found.filter (·.isComplete)
  | .error _ => none

theorem usable_of_complete {credentials : Registry.Credentials} (h : credentials.isComplete = true) :
    usable (.ok (some credentials)) = some credentials :=
  Option.filter_some_pos h

theorem usable_of_incomplete {credentials : Registry.Credentials}
    (h : credentials.isComplete = false) : usable (.ok (some credentials)) = none :=
  Option.filter_some_neg (by simp [h])

/-- The credentials for a registry are looked up, and a failure to do so gives none. -/
theorem runs_usableCredentials {ending : Result (Option Registry.Credentials)}
    (h : Runs (usableCredentials registry) steps ending) :
    ∃ answer, steps = [.call (.lookUp registry) answer] ∧
      ending = answer.map fun r => .ok (usable r) := by
  obtain ⟨asking, r, rest, rfl, hAttempt, hRest⟩ := runs_andThen.1 h
  obtain ⟨answer, rfl, hAsk⟩ := runs_attempt.1 hAttempt
  obtain rfl := runs_ask.1 hAsk
  refine ⟨answer, ?_⟩
  rcases answer with _ | (f | _ | credentials)
  · obtain ⟨rfl, rfl⟩ := runs_cutOff.1 hRest
    exact ⟨rfl, rfl⟩
  · obtain ⟨rfl, rfl⟩ := runs_done.1 (runs_log.1 hRest)
    exact ⟨rfl, rfl⟩
  · obtain ⟨rfl, rfl⟩ := runs_done.1 (runs_log.1 hRest)
    exact ⟨rfl, rfl⟩
  · replace hRest : Runs (if credentials.isComplete then .done (some credentials) else
        .log _ (.done none)) rest ending := hRest
    cases hComplete : credentials.isComplete with
    | true =>
      simp only [hComplete, if_true] at hRest
      obtain ⟨rfl, rfl⟩ := runs_done.1 hRest
      have hUsable := usable_of_complete hComplete
      exact ⟨rfl, congrArg (fun found => some (Except.ok found)) hUsable.symm⟩
    | false =>
      simp only [hComplete, Bool.false_eq_true, if_false] at hRest
      obtain ⟨rfl, rfl⟩ := runs_done.1 (runs_log.1 hRest)
      have hUsable := usable_of_incomplete hComplete
      exact ⟨rfl, congrArg (fun found => some (Except.ok found)) hUsable.symm⟩

theorem runs_create {content : Text.Bytes} {ending : Result SyncOutcome}
    (h : Runs (create name «namespace» content) steps ending) :
    ∃ answer, steps = [.call (.createSecret (secret name «namespace» content)) answer] ∧
      ending = answer.map fun r => r.map fun _ => .created := by
  obtain ⟨asking, answer, rest, rfl, hAsk, hRest⟩ := runs_andThen.1 h
  obtain rfl := runs_ask.1 hAsk
  refine ⟨answer, ?_⟩
  rcases answer with _ | (f | _)
  · obtain ⟨rfl, rfl⟩ := runs_cutOff.1 hRest
    exact ⟨rfl, rfl⟩
  · obtain ⟨rfl, rfl⟩ := runs_fail.1 hRest
    exact ⟨rfl, rfl⟩
  · obtain ⟨rfl, rfl⟩ := runs_done.1 (runs_log.1 hRest)
    exact ⟨rfl, rfl⟩

/-! ### All runs -/

/-- The deletion of a secret, where there is one. -/
def removal (name : String) : Option Secret → List (Step interface)
  | none => []
  | some _ => [.call (.deleteSecret name) (some (.ok ()))]

/-- The ways in which a secret is given its content, and those in which a call fails before that. -/
inductive Updates (name «namespace» : String) (content : Text.Bytes) :
    List (Step interface) → Result SyncOutcome → Prop
  /-- It cannot be read. -/
  | unread (failure : Option Failure) :
      Updates name «namespace» content [.call (.getSecret name) (failure.map .error)]
        (failure.map .error)
  /-- It is there with that content. -/
  | kept {existing : Secret} (hContent : content? existing = some content) :
      Updates name «namespace» content [.call (.getSecret name) (some (.ok (some existing)))]
        (some (.ok .unchanged))
  /-- It is there with another content, and cannot be deleted. -/
  | undeleted {existing : Secret} (hContent : content? existing ≠ some content)
      (failure : Option Failure) :
      Updates name «namespace» content [.call (.getSecret name) (some (.ok (some existing))),
        .call (.deleteSecret name) (failure.map .error)] (failure.map .error)
  /-- It is not there, or was deleted, and is created as far as that goes well. -/
  | renewed {existing : Option Secret} (hContent : existing.bind content? ≠ some content)
      (answer : Result Unit) :
      Updates name «namespace» content (.call (.getSecret name) (some (.ok existing)) ::
          (removal name existing ++
            [.call (.createSecret (secret name «namespace» content)) answer]))
        (answer.map fun r => r.map fun _ => .created)

/-- The part of `ensure` that is left when there are credentials. -/
def update (name «namespace» : String) (content : Text.Bytes) : Action SyncOutcome := do
  match ← .ask (I := interface) (.getSecret name) with
  | none => create name «namespace» content
  | some existing =>
    if content? existing = some content then do
      .note ⟨.debug, "Pull secret is up to date", [("secret", name)]⟩
      return .unchanged
    else do
      .note ⟨.debug, "Pull secret changed, recreating", [("secret", name)]⟩
      .ask (I := interface) (.deleteSecret name)
      create name «namespace» content

theorem updates_of_runs {content : Text.Bytes} {ending : Result SyncOutcome}
    (h : Runs (update name «namespace» content) steps ending) :
    Updates name «namespace» content steps ending := by
  obtain ⟨asking, answer, rest, rfl, hAsk, hRest⟩ := runs_andThen.1 h
  obtain rfl := runs_ask.1 hAsk
  rcases answer with _ | (f | existing)
  · obtain ⟨rfl, rfl⟩ := runs_cutOff.1 hRest
    exact .unread none
  · obtain ⟨rfl, rfl⟩ := runs_fail.1 hRest
    exact .unread (some f)
  · rw [resume_ok] at hRest
    cases existing with
    | none =>
      obtain ⟨answer, rfl, rfl⟩ := runs_create hRest
      exact @Updates.renewed _ _ _ none nofun answer
    | some existing =>
      dsimp only at hRest
      split at hRest
      · rename_i hContent
        obtain ⟨rfl, rfl⟩ := runs_done.1 (runs_log.1 hRest)
        exact .kept hContent
      · rename_i hContent
        rw [bind_eq_andThen, note_andThen, runs_log] at hRest
        obtain ⟨deleting, answer, creating, rfl, hDelete, hCreate⟩ := runs_andThen.1 hRest
        obtain rfl := runs_ask.1 hDelete
        rcases answer with _ | (f | _)
        · obtain ⟨rfl, rfl⟩ := runs_cutOff.1 hCreate
          exact .undeleted hContent none
        · obtain ⟨rfl, rfl⟩ := runs_fail.1 hCreate
          exact .undeleted hContent (some f)
        · obtain ⟨answer, rfl, rfl⟩ := runs_create hCreate
          exact @Updates.renewed _ _ _ (some existing) hContent answer

/-- The ways in which a pull secret is seen to, also those in which a call fails. -/
inductive Attempts (name «namespace» image : String) :
    List (Step interface) → Result SyncOutcome → Prop
  /-- The reference of the image is refused, and nothing is asked. -/
  | refused {f : Failure} (hImage : Registry.imageRegistry image = .error f) :
      Attempts name «namespace» image [] (some (.error f))
  /-- The lookup gives no credentials that can be used, and that is all. -/
  | unusable {registry : String} {answer : Result (Option Registry.Credentials)}
      (hImage : Registry.imageRegistry image = .ok registry) (hUsable : answer.bind usable = none) :
      Attempts name «namespace» image [.call (.lookUp registry) answer]
        (answer.map fun _ => .ok .noCredentials)
  /-- There are credentials, and the secret is given them. -/
  | updated {registry : String} {answer : Except Failure (Option Registry.Credentials)}
      {credentials : Registry.Credentials} {rest : List (Step interface)}
      {ending : Result SyncOutcome} (hImage : Registry.imageRegistry image = .ok registry)
      (hUsable : usable answer = some credentials)
      (hRest : Updates name «namespace» (contentFor registry credentials) rest ending) :
      Attempts name «namespace» image (.call (.lookUp registry) (some answer) :: rest) ending

theorem attempts_of_runs {ending : Result SyncOutcome}
    (h : Runs (ensure name «namespace» image) steps ending) :
    Attempts name «namespace» image steps ending := by
  replace h := runs_ofExcept_andThen.1 (runs_log.1 h)
  cases hImage : Registry.imageRegistry image with
  | error f =>
    rw [hImage] at h
    obtain ⟨rfl, rfl⟩ := runs_fail.1 h
    exact .refused hImage
  | ok registry =>
    rw [hImage, resume_ok] at h
    obtain ⟨looking, found, rest, rfl, hLook, hRest⟩ := runs_andThen.1 h
    obtain ⟨answer, rfl, rfl⟩ := runs_usableCredentials hLook
    cases answer with
    | none =>
      obtain ⟨rfl, rfl⟩ := runs_cutOff.1 hRest
      exact @Attempts.unusable _ _ _ _ none hImage rfl
    | some answer =>
      rw [Option.map_some, resume_ok] at hRest
      cases hUsable : usable answer with
      | none =>
        rw [hUsable] at hRest
        obtain ⟨rfl, rfl⟩ := runs_done.1 hRest
        exact @Attempts.unusable _ _ _ _ (some answer) hImage hUsable
      | some credentials =>
        rw [hUsable] at hRest
        exact .updated hImage hUsable (updates_of_runs hRest)

/-! ### Runs with success -/

/-- The credentials that a lookup has given for the registry of an image, if they can be used. -/
structure LooksUp (image registry : String) (answer : Except Failure (Option Registry.Credentials))
    (found : Option Registry.Credentials) : Prop where
  registry : Registry.imageRegistry image = .ok registry
  usable : usable answer = found

/-- The ways in which a pull secret is seen to with success. -/
inductive Syncs (name «namespace» image : String) : List (Step interface) → SyncOutcome → Prop
  /-- There are no credentials to put into it. -/
  | unusable {registry : String} {answer : Except Failure (Option Registry.Credentials)}
      (hLooksUp : LooksUp image registry answer none) :
      Syncs name «namespace» image [.call (.lookUp registry) (some answer)] .noCredentials
  /-- It is there with the right content. -/
  | kept {registry : String} {answer : Except Failure (Option Registry.Credentials)}
      {credentials : Registry.Credentials} {existing : Secret}
      (hLooksUp : LooksUp image registry answer (some credentials))
      (hContent : content? existing = some (contentFor registry credentials)) :
      Syncs name «namespace» image [.call (.lookUp registry) (some answer),
        .call (.getSecret name) (some (.ok (some existing)))] .unchanged
  /-- It is not there, and is created. -/
  | created {registry : String} {answer : Except Failure (Option Registry.Credentials)}
      {credentials : Registry.Credentials}
      (hLooksUp : LooksUp image registry answer (some credentials)) :
      Syncs name «namespace» image [.call (.lookUp registry) (some answer),
        .call (.getSecret name) (some (.ok none)),
        .call (.createSecret (secret name «namespace» (contentFor registry credentials)))
          (some (.ok ()))] .created
  /-- It is there with another content, and is deleted and created anew. -/
  | replaced {registry : String} {answer : Except Failure (Option Registry.Credentials)}
      {credentials : Registry.Credentials} {existing : Secret}
      (hLooksUp : LooksUp image registry answer (some credentials)) :
      Syncs name «namespace» image [.call (.lookUp registry) (some answer),
        .call (.getSecret name) (some (.ok (some existing))),
        .call (.deleteSecret name) (some (.ok ())),
        .call (.createSecret (secret name «namespace» (contentFor registry credentials)))
          (some (.ok ()))] .created

theorem syncs_of_runs {outcome : SyncOutcome}
    (h : Runs (ensure name «namespace» image) steps (some (.ok outcome))) :
    Syncs name «namespace» image steps outcome := by
  generalize hEnding : some (Except.ok outcome) = ending at h
  cases attempts_of_runs h with
  | refused => cases hEnding
  | @unusable registry answer hImage hUsable =>
    cases answer with
    | none => cases hEnding
    | some answer =>
      cases hEnding
      exact .unusable ⟨hImage, hUsable⟩
  | updated hImage hUsable hRest =>
    cases hRest with
    | unread failure | undeleted _ failure => cases failure <;> cases hEnding
    | kept hContent =>
      cases hEnding
      exact .kept ⟨hImage, hUsable⟩ hContent
    | @renewed existing hContent answer =>
      rcases answer with _ | (f | _)
      · cases hEnding
      · cases hEnding
      · cases hEnding
        cases existing with
        | none => exact .created ⟨hImage, hUsable⟩
        | some existing => exact .replaced ⟨hImage, hUsable⟩

/-- A secret that is seen to can be used when there are credentials for it. -/
theorem Syncs.isAttachable {outcome : SyncOutcome} (h : Syncs name «namespace» image steps outcome) :
    ∃ registry answer rest, Registry.imageRegistry image = .ok registry ∧
      steps = .call (.lookUp registry) (some answer) :: rest ∧
      outcome.isAttachable = (usable answer).isSome := by
  cases h with
  | unusable hLooksUp | kept hLooksUp _ | created hLooksUp | replaced hLooksUp =>
    exact ⟨_, _, _, hLooksUp.registry, rfl, by rw [hLooksUp.usable]; rfl⟩

/-- A step after which a secret is known to hold some content. -/
inductive ShowsSecret (name «namespace» : String) (content : Text.Bytes) : Step interface → Prop
  | read {existing : Secret} (hContent : content? existing = some content) :
      ShowsSecret name «namespace» content (.call (.getSecret name) (some (.ok (some existing))))
  | created : ShowsSecret name «namespace» content
      (.call (.createSecret (secret name «namespace» content)) (some (.ok ())))

/-- When a secret can be used, the last step has shown that it holds the credentials for the registry
of the image. -/
theorem Syncs.showsSecret {outcome : SyncOutcome} (h : Syncs name «namespace» image steps outcome)
    (hOutcome : outcome.isAttachable = true) :
    ∃ registry answer credentials earlier step,
      LooksUp image registry answer (some credentials) ∧ steps = earlier ++ [step] ∧
      .call (.lookUp registry) (some answer) ∈ earlier ∧
      ShowsSecret name «namespace» (contentFor registry credentials) step := by
  cases h with
  | unusable => cases hOutcome
  | kept hLooksUp hContent =>
    exact ⟨_, _, _, [_], _, hLooksUp, rfl, List.mem_cons_self, .read hContent⟩
  | created hLooksUp => exact ⟨_, _, _, [_, _], _, hLooksUp, rfl, List.mem_cons_self, .created⟩
  | replaced hLooksUp => exact ⟨_, _, _, [_, _, _], _, hLooksUp, rfl, List.mem_cons_self, .created⟩

end PullSecret

end PodWorkspace
