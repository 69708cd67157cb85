import PodWorkspace.Proofs.PullSecret.Payload
import PodWorkspace.Proofs.PullSecret.Sync
import PodWorkspace.Proofs.Simulation.Deletion

/-! What an attempt to see to a pull secret leaves in a cluster whose calls may fail. Without usable
credentials nothing is touched; with them the secret is left as it was, or is gone, or holds them, and
it does hold them after an attempt that succeeds. It is then left alone by the next attempt, and gives
the token of the credentials. -/

namespace PodWorkspace

open Cluster Program Simulation

namespace Simulation.Store

/-- What a secret holds, if it is there. -/
def secretContent? (s : Store) (name : String) : Option Text.Bytes :=
  (s.secrets.get? name).bind PullSecret.content?

def withoutSecret (s : Store) (name : String) : Store :=
  { s with secrets := s.secrets.erase name }

def withSecret (s : Store) (secret : Secret) : Store :=
  { s with secrets := s.secrets.insert secret.name secret }

theorem withoutSecret_of_absent {s : Store} {name : String} (h : s.secrets.get? name = none) :
    s.withoutSecret name = s := by
  rw [withoutSecret, Dict.erase_of_get?_eq_none h]

theorem secretContent?_withSecret (s : Store) (name «namespace» : String) (content : Text.Bytes) :
    (s.withSecret (PullSecret.secret name «namespace» content)).secretContent? name =
      some content := by
  have hStored : (s.withSecret (PullSecret.secret name «namespace» content)).secrets.get? name =
      some (PullSecret.secret name «namespace» content) :=
    Dict.get?_insert_self _ _ _
  rw [secretContent?, hStored]
  simp [PullSecret.content?, PullSecret.secret, Dict.single, Dict.get?]

end Simulation.Store

namespace PullSecret

variable {name «namespace» image registry : String} {content : Text.Bytes}
  {steps : List (Step interface)} {ending : Result SyncOutcome} {outcome : SyncOutcome}
  {around : Surroundings} {s s' : Store} {existing : Option Secret}
  {credentials : Registry.Credentials}

/-! ### One attempt -/

theorem map_error_ne {α : Type} (failure : Option Failure) (a : α) :
    (failure.map .error : Result α) ≠ some (.ok a) := by
  cases failure <;> nofun

/-- The deletion of a secret that is there, as a cluster carries it out. -/
theorem falters_removal {rest : List (Step interface)} (hExisting : s.secrets.get? name = existing)
    (h : Falters around s (removal name existing ++ rest) s') :
    Falters around (s.withoutSecret name) rest s' := by
  cases existing with
  | none => rwa [Store.withoutSecret_of_absent hExisting]
  | some existing => exact h.of_ok.2

/-- A secret that was read is the one in the cluster, and only that was done. -/
theorem falters_read {rest : List (Step interface)}
    (h : Falters around s (.call (.getSecret name) (some (.ok existing)) :: rest) s') :
    s.secrets.get? name = existing ∧ Falters around s rest s' := by
  obtain ⟨hAnswer, hRest⟩ := h.of_ok
  exact ⟨Except.ok.inj hAnswer, hRest⟩

/-- Whatever fails, the secret is left as it was, or is gone, or is the new one, and nothing else is
touched. -/
theorem Updates.leaves (h : Updates name «namespace» content steps ending)
    (hFalters : Falters around s steps s') :
    s' = s ∨ s' = s.withoutSecret name ∨
      s' = (s.withoutSecret name).withSecret (secret name «namespace» content) := by
  cases h with
  | unread failure => exact .inl (hFalters.of_failed (map_error_ne failure) rfl).eq_of_nil
  | kept => exact .inl (falters_read hFalters).2.eq_of_nil
  | undeleted _ failure =>
    exact .inl ((falters_read hFalters).2.of_failed (map_error_ne failure) rfl).eq_of_nil
  | @renewed existing _ answer =>
    obtain ⟨hExisting, hRest⟩ := falters_read hFalters
    have hCreate := falters_removal hExisting hRest
    rcases answer with _ | (f | _)
    · exact .inr (.inl (hCreate.of_failed (map_error_ne none) rfl).eq_of_nil)
    · exact .inr (.inl (hCreate.of_failed (map_error_ne (some f)) rfl).eq_of_nil)
    · exact .inr (.inr hCreate.of_ok.2.eq_of_nil)

/-- How a secret is seen to with success when there are credentials: it holds the content then, and
was left alone exactly when it did before. Otherwise it was created, after the deletion of the one that
was there. -/
structure Provides (name «namespace» : String) (content : Text.Bytes) (s : Store)
    (steps : List (Step interface)) (outcome : SyncOutcome) (s' : Store) : Prop where
  attachable : outcome.isAttachable = true
  held : s'.secretContent? name = some content
  unchanged : outcome = .unchanged ↔ s.secretContent? name = some content
  untouched : outcome = .unchanged →
    s' = s ∧ ∀ r a, .call r a ∈ steps → Request.changesObjects r = false
  created : outcome = .created ↔ timesAsked Request.createsSecret steps = 1
  renewed : outcome = .created → ∃ before,
    steps = before ++ [.call (.createSecret (secret name «namespace» content)) (some (.ok ()))] ∧
      timesAsked Request.createsSecret before = 0 ∧
      timesAsked Request.deletesSecret before = if (s.secrets.get? name).isSome then 1 else 0

theorem timesAsked_removal (name : String) (existing : Option Secret) :
    timesAsked Request.createsSecret (removal name existing) = 0 ∧
      timesAsked Request.deletesSecret (removal name existing) =
        if existing.isSome then 1 else 0 := by
  cases existing <;> exact ⟨rfl, rfl⟩

theorem Updates.provides (h : Updates name «namespace» content steps (some (.ok outcome)))
    (hFalters : Falters around s steps s') :
    Provides name «namespace» content s steps outcome s' := by
  generalize hEnding : some (Except.ok outcome) = ending at h
  cases h with
  | unread failure | undeleted _ failure => cases failure <;> cases hEnding
  | @kept existing hContent =>
    cases hEnding
    obtain ⟨hExisting, hRest⟩ := falters_read hFalters
    obtain rfl := hRest.eq_of_nil
    have hHeld : s'.secretContent? name = some content := by
      rw [Store.secretContent?, hExisting]
      exact hContent
    refine ⟨rfl, hHeld, iff_of_true rfl hHeld, fun _ => ⟨rfl, fun r a hMem => ?_⟩,
      by simp [Request.createsSecret], nofun⟩
    cases List.mem_singleton.1 hMem
    rfl
  | @renewed existing hContent answer =>
    rcases answer with _ | (f | _)
    · cases hEnding
    · cases hEnding
    · cases hEnding
      obtain ⟨hExisting, hRest⟩ := falters_read hFalters
      obtain rfl := (falters_removal hExisting hRest).of_ok.2.eq_of_nil
      obtain ⟨hCreates, hDeletes⟩ := timesAsked_removal name existing
      have hOther : s.secretContent? name ≠ some content := by
        rw [Store.secretContent?, hExisting]
        exact hContent
      refine ⟨rfl, Store.secretContent?_withSecret _ _ _ _, iff_of_false nofun hOther, nofun,
        iff_of_true rfl ?_, fun _ => ⟨.call (.getSecret name) (some (.ok existing)) ::
          removal name existing, rfl, ?_, ?_⟩⟩
      · rw [timesAsked_cons, timesAsked_append, hCreates]
        rfl
      · simp [hCreates, Request.createsSecret]
      · simp [hDeletes, hExisting, Request.deletesSecret]

/-- What was asked before the secret is seen to does not matter, as long as it only looks. -/
theorem Provides.after_look {r : Request} {a : Result r.Answer}
    (h : Provides name «namespace» content s steps outcome s') (hLook : r.changesObjects = false) :
    Provides name «namespace» content s (.call r a :: steps) outcome s' := by
  have hCreates : r.createsSecret = false := by cases r <;> first | rfl | cases hLook
  have hDeletes : r.deletesSecret = false := by cases r <;> first | rfl | cases hLook
  refine { h with untouched := fun hOutcome => ?_, created := ?_, renewed := fun hOutcome => ?_ }
  · obtain ⟨hSame, hLooks⟩ := h.untouched hOutcome
    refine ⟨hSame, fun other answer hMem => ?_⟩
    rcases List.mem_cons.1 hMem with hHead | hMem
    · cases hHead
      exact hLook
    · exact hLooks other answer hMem
  · rw [timesAsked_cons, asks_call, hCreates]
    exact h.created
  · obtain ⟨before, rfl, hBefore, hDeleted⟩ := h.renewed hOutcome
    exact ⟨.call r a :: before, rfl, by simp [hBefore, hCreates], by simp [hDeleted, hDeletes]⟩

/-! ### The next attempt, and the token -/

theorem yields_usableCredentials (registry : String) :
    Yields around s (usableCredentials registry)
      (usable (Store.lookUp around registry)) s := by
  refine (yields_attempt_ask (.lookUp registry)).andThen ?_
  have hAnswer : (s.answer around (.lookUp registry)).1 = Store.lookUp around registry := rfl
  rw [hAnswer]
  rcases Store.lookUp around registry with f | _ | credentials
  · exact (yields_note _).andThen (yields_done _)
  · exact (yields_note _).andThen (yields_done _)
  · cases hComplete : credentials.isComplete with
    | true =>
      simp only [usable, hComplete, if_true, Option.filter_some_pos]
      exact yields_done _
    | false =>
      simp only [usable, hComplete, Bool.false_eq_true, if_false, Option.filter_some_neg]
      exact (yields_note _).andThen (yields_done _)

/-- Where a secret holds the credentials already it is left alone. -/
theorem yields_ensure_unchanged (hImage : Registry.imageRegistry image = .ok registry)
    (hUsable : usable (Store.lookUp around registry) = some credentials)
    (hHeld : s.secretContent? name = some (contentFor registry credentials)) :
    Yields around s (ensure name «namespace» image) .unchanged s := by
  obtain ⟨existing, hExisting, hContent⟩ := Option.bind_eq_some_iff.1 hHeld
  refine (yields_note _).andThen ((yields_ofExcept hImage).andThen
    ((yields_usableCredentials registry).andThen ?_))
  rw [hUsable]
  refine Yields.andThen (yields_ask (Prod.ext (congrArg Except.ok hExisting) rfl)) ?_
  simp only [hContent, if_true]
  exact (yields_note _).andThen (yields_done _)

/-- A secret that holds credentials for a registry gives their token for it. -/
theorem yields_read (hFor : IsFor registry credentials)
    (hHeld : s.secretContent? name = some (contentFor registry credentials)) :
    Yields around s (read name registry) (some credentials.token) s := by
  obtain ⟨existing, hExisting, hContent⟩ := Option.bind_eq_some_iff.1 hHeld
  refine Yields.andThen (yields_ask (Prod.ext (congrArg Except.ok hExisting) rfl)) ?_
  simp only [hContent]
  exact yields_ofExcept (tokenFor_contentFor hFor)

/-! ### All attempts -/

/-- An attempt to see to a pull secret touches nothing when the image or the lookup gives no usable
credentials. When there are some, whichever calls fail, nothing is touched but the secret, which is
left as it was or gone or the new one; an attempt that succeeds leaves it with those credentials, and
has not touched it exactly when it held them before. The next attempt with the same answers then leaves
it alone, and for the registry of the image the secret gives the token of the credentials. -/
theorem ensure_provides (hRun : Runs (ensure name «namespace» image) steps ending)
    (hFalters : Falters around s steps s') :
    (∀ f, Registry.imageRegistry image = .error f →
      steps = [] ∧ ending = some (.error f) ∧ s' = s) ∧
    ∀ registry, Registry.imageRegistry image = .ok registry →
      ∃ (answer : Result (Option Registry.Credentials)) (rest : List (Step interface)),
      steps = .call (.lookUp registry) answer :: rest ∧
      (answer.bind usable = none →
        rest = [] ∧ ending = answer.map (fun _ => .ok .noCredentials) ∧ s' = s) ∧
      ∀ credentials, answer.bind usable = some credentials →
        (s' = s ∨ s' = s.withoutSecret name ∨ s' = (s.withoutSecret name).withSecret
          (secret name «namespace» (contentFor registry credentials))) ∧
        ∀ outcome, ending = some (.ok outcome) →
          Provides name «namespace» (contentFor registry credentials) s steps outcome s' ∧
          ∀ next : Surroundings,
            (some (Store.lookUp next registry) = answer →
              Yields next s' (ensure name «namespace» image) .unchanged s') ∧
            (IsFor registry credentials →
              Yields next s' (read name registry) (some credentials.token) s') := by
  cases attempts_of_runs hRun with
  | refused hImage =>
    refine ⟨fun f hOther => ?_, fun registry hRegistry => ?_⟩
    · rw [hImage] at hOther
      cases hOther
      exact ⟨rfl, rfl, hFalters.eq_of_nil⟩
    · rw [hImage] at hRegistry
      cases hRegistry
  | @unusable registry answer hImage hUsable =>
    refine ⟨fun f hError => (by rw [hImage] at hError; cases hError), fun other hOther => ?_⟩
    obtain rfl : registry = other := Except.ok.inj (hImage.symm.trans hOther)
    have hSame : s' = s := by
      cases hFalters with
      | answered hRest | failed _ hRest => exact hRest.eq_of_nil
    refine ⟨answer, [], rfl, fun _ => ⟨rfl, rfl, hSame⟩, fun credentials hSome => ?_⟩
    rw [hUsable] at hSome
    cases hSome
  | @updated registry answer credentials rest _ hImage hUsable hRest =>
    refine ⟨fun f hError => (by rw [hImage] at hError; cases hError), fun other hOther => ?_⟩
    obtain rfl : registry = other := Except.ok.inj (hImage.symm.trans hOther)
    have hAfter : Falters around s rest s' := by
      cases hFalters with
      | answered hAfter | failed _ hAfter => exact hAfter
    refine ⟨some answer, rest, rfl, fun hNone => ?_, fun found hFound => ?_⟩
    · rw [Option.bind_some, hUsable] at hNone
      cases hNone
    · rw [Option.bind_some, hUsable] at hFound
      cases hFound
      refine ⟨hRest.leaves hAfter, fun outcome hOutcome => ?_⟩
      subst hOutcome
      have hProvides : Provides name «namespace» (contentFor registry credentials) s
          (.call (.lookUp registry) (some answer) :: rest) outcome s' :=
        (hRest.provides hAfter).after_look rfl
      refine ⟨hProvides, fun next => ⟨fun hSame => ?_, fun hFor => yields_read hFor hProvides.held⟩⟩
      obtain rfl := Option.some.inj hSame
      exact yields_ensure_unchanged hImage hUsable hProvides.held

/-! ### A secret with other credentials -/

/-- A cluster with a pull secret that holds nothing of use. -/
def outdated : Store where
  secrets := (∅ : Dict Secret).insert "registry" (secret "registry" "team" [])

/-- A run that sees to that secret. -/
def renewal : Followed interface Store SyncOutcome :=
  outdated.follow .trusted (ensure "registry" "team" "debian")

/-- The secret is deleted and created anew, and gives the token from then on. -/
theorem ensure_provides_of_outdated :
    renewal.ending = some (.ok .created) ∧ Falters .trusted outdated renewal.steps renewal.state ∧
      timesAsked Request.deletesSecret renewal.steps = 1 ∧
      Yields .trusted renewal.state (ensure "registry" "team" "debian") .unchanged renewal.state ∧
      Yields .trusted renewal.state (read "registry" Registry.hubAddress) (some "dev:hush")
        renewal.state := by
  have hEnding : renewal.ending = some (.ok .created) :=
    Followed.ending_of_value (by decide +kernel)
  have hRun : Runs (ensure "registry" "team" "debian") renewal.steps renewal.ending :=
    outdated.runs_follow .trusted _
  have hServes : Serves .trusted outdated renewal.steps renewal.state :=
    outdated.serves_follow .trusted _
  obtain ⟨answer, rest, hSteps, -, hUsable⟩ :=
    (ensure_provides hRun (.of_serves hServes)).2 Registry.hubAddress rfl
  have hAnswer : answer = some (Store.lookUp .trusted Registry.hubAddress) := by
    rw [hSteps] at hServes
    exact hServes.answer_eq
  have hFound : answer.bind usable = some { username := "dev", secret := "hush" } := by
    rw [hAnswer]
    decide +kernel
  obtain ⟨-, hOk⟩ := hUsable _ hFound
  obtain ⟨hProvides, hNext⟩ := hOk _ hEnding
  obtain ⟨hAgain, hToken⟩ := hNext .trusted
  obtain ⟨before, hBefore, -, hDeleted⟩ := hProvides.renewed rfl
  refine ⟨hEnding, .of_serves hServes, ?_, hAgain hAnswer.symm, hToken (.inl rfl)⟩
  rw [hBefore, timesAsked_append, hDeleted]
  rfl

end PullSecret

end PodWorkspace
