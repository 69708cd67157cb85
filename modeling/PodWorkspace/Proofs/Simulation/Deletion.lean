import PodWorkspace.Proofs.Program.Failures
import PodWorkspace.Proofs.Simulation.Yields
import PodWorkspace.Workspace.Manage

/-! Deleting a workspace in a simulated cluster whose calls may fail. No attempt touches anything but
the objects of the workspace, each of them is gone after an attempt that succeeds, and whatever the
attempts before have left, one in which no call fails comes to the same end. -/

namespace PodWorkspace

open Cluster Program Simulation

/-! ### A cluster whose calls may fail -/

namespace Simulation

variable {around : Surroundings} {s s' : Store} {steps : List (Step interface)}

/-- The objects of a cluster before and after some steps. Each call is either answered or has no
effect; then it fails, or it is cut off. -/
inductive Falters (around : Surroundings) : Store → List (Step interface) → Store → Prop
  | nil (s : Store) : Falters around s [] s
  | answered {s s' : Store} {r : Request} {steps : List (Step interface)}
      (hRest : Falters around (s.answer around r).2 steps s') :
      Falters around s (.call r (some (s.answer around r).1) :: steps) s'
  | failed {s s' : Store} {r : Request} {answer : Result r.Answer} {steps : List (Step interface)}
      (hFailed : ∀ a, answer ≠ some (.ok a)) (hRest : Falters around s steps s') :
      Falters around s (.call r answer :: steps) s'
  | clock {s s' : Store} {now : Duration} {steps : List (Step interface)}
      (hRest : Falters around s steps s') : Falters around s (.clock now :: steps) s'
  | sleep {s s' : Store} {till : Duration} {slept : Bool} {steps : List (Step interface)}
      (hRest : Falters around s steps s') : Falters around s (.sleep till slept :: steps) s'

namespace Falters

/-- What holds of the store and outlives each request that is asked still holds at the end. -/
theorem preserves {P : Store → Prop} (h : Falters around s steps s') (hStart : P s)
    (hStep : ∀ s r a, .call r a ∈ steps → P s → P (s.answer around r).2) : P s' := by
  induction h with
  | nil => exact hStart
  | answered hRest ih =>
    exact ih (hStep _ _ _ List.mem_cons_self hStart)
      fun s r a hMem => hStep s r a (List.mem_cons_of_mem _ hMem)
  | failed _ _ ih | clock _ ih | sleep _ ih =>
    exact ih hStart fun s r a hMem => hStep s r a (List.mem_cons_of_mem _ hMem)

theorem serves (h : Falters around s steps s')
    (hValues : ∀ r answer, .call r answer ∈ steps → ∃ a, answer = some (.ok a)) :
    Serves around s steps s' := by
  induction h with
  | nil s => exact .nil s
  | answered _ ih => exact .call (ih fun r a hMem => hValues r a (List.mem_cons_of_mem _ hMem))
  | failed hFailed _ _ =>
    obtain ⟨a, hAnswer⟩ := hValues _ _ List.mem_cons_self
    exact absurd hAnswer (hFailed a)
  | clock _ ih => exact .clock (ih fun r a hMem => hValues r a (List.mem_cons_of_mem _ hMem))
  | sleep _ ih => exact .sleep (ih fun r a hMem => hValues r a (List.mem_cons_of_mem _ hMem))

theorem of_serves (h : Serves around s steps s') : Falters around s steps s' := by
  induction h with
  | nil s => exact .nil s
  | call _ ih => exact .answered ih
  | clock _ ih => exact .clock ih
  | sleep _ ih => exact .sleep ih

theorem eq_of_nil (h : Falters around s [] s') : s' = s := by
  cases h
  rfl

/-- A call with a value was answered. -/
theorem of_ok {r : Request} {a : r.Answer} (h : Falters around s (.call r (some (.ok a)) :: steps) s') :
    (s.answer around r).1 = .ok a ∧ Falters around (s.answer around r).2 steps s' := by
  generalize hAnswer : (some (.ok a) : Result r.Answer) = answer at h
  cases h with
  | answered hRest => exact ⟨(Option.some.inj hAnswer).symm, hRest⟩
  | failed hFailed _ => exact absurd hAnswer.symm (hFailed a)

/-- A call without a value, of a request that does not fail when it is answered, had no effect. -/
theorem of_failed {r : Request} {answer : Result r.Answer} {a : r.Answer}
    (h : Falters around s (.call r answer :: steps) s') (hFailed : ∀ a, answer ≠ some (.ok a))
    (hAnswers : (s.answer around r).1 = .ok a) : Falters around s steps s' := by
  cases h with
  | answered _ => exact absurd (congrArg some hAnswers) (hFailed a)
  | failed _ hRest => exact hRest

end Falters

/-- A program that gives up at the first failure and yields a value: whichever calls fail, it has that
value and leaves the same objects when it has a value at all. -/
theorem Yields.eq_of_falters {α : Type} {x : Action α} {a b : α} {after : Store}
    (h : Yields around s x a s') (hInsists : Insists x) (hRun : Runs x steps (some (.ok b)))
    (hFalters : Falters around s steps after) : b = a ∧ after = s' := by
  obtain ⟨hEnding, hStore⟩ := h hRun (hFalters.serves (hInsists hRun))
  cases hEnding
  exact ⟨rfl, hStore⟩

end Simulation

/-! ### Maps that lose a key -/

namespace Dict

variable {α : Type} {owned : Bool} {key : String} {d d' : Dict α}

/-- The map without a key, where that is owned. -/
def disown (owned : Bool) (key : String) (d : Dict α) : Dict α :=
  if owned then d.erase key else d

/-- Whether `d'` is the map `d`, or lacks nothing of it but a key that is owned. -/
def Sheds (owned : Bool) (key : String) (d d' : Dict α) : Prop :=
  d' = d ∨ d' = d.disown owned key

theorem disown_of_owned (h : owned = true) : d.disown owned key = d.erase key := if_pos h

theorem get?_disown (h : owned = true) : (d.disown owned key).get? key = none := by
  rw [disown_of_owned h, get?_erase, if_pos rfl]

@[simp] theorem disown_disown : (d.disown owned key).disown owned key = d.disown owned key := by
  unfold disown
  split
  · exact erase_erase d key
  · rfl

theorem Sheds.disown_eq (h : Sheds owned key d d') : d'.disown owned key = d.disown owned key := by
  obtain rfl | rfl := h
  · rfl
  · exact disown_disown

theorem Sheds.erase (h : Sheds owned key d d') (hOwned : owned = true) :
    Sheds owned key d (d'.erase key) := by
  rw [← disown_of_owned hOwned]
  exact .inr h.disown_eq

end Dict

/-! ### The deletion of a workspace -/

namespace Workspace

variable {w : Workspace} {around : Surroundings} {s t t' : Store} {steps : List (Step interface)}

/-- Whether there is a role binding among the objects of a workspace. -/
def ownsBinding (w : Workspace) : Bool := w.options.manifest.clusterRole.isSome

/-- Whether there is a pull secret among the objects of a workspace. -/
def ownsSecret (w : Workspace) : Bool := w.options.manifest.pullSecretsEnabled

/-- Whether a request is one of those by which a workspace is deleted. -/
def Disposes (w : Workspace) : Request → Prop
  | .deletePod name | .deleteClaim name => name = w.resource
  | .deleteRoleBinding name => name = w.resource ∧ w.ownsBinding = true
  | .getSecret name | .deleteSecret name => name = w.name.pullSecret ∧ w.ownsSecret = true
  | _ => False

/-- The objects of a cluster without those of a workspace. -/
def cleared (w : Workspace) (s : Store) : Store :=
  { s with
    pods := s.pods.erase w.resource
    claims := s.claims.erase w.resource
    roleBindings := s.roleBindings.disown w.ownsBinding w.resource
    secrets := s.secrets.disown w.ownsSecret w.name.pullSecret }

/-- Whether none of the objects of a workspace is there. -/
structure IsCleared (w : Workspace) (s : Store) : Prop where
  pod : s.pods.get? w.resource = none
  claim : s.claims.get? w.resource = none
  binding : w.ownsBinding = true → s.roleBindings.get? w.resource = none
  secret : w.ownsSecret = true → s.secrets.get? w.name.pullSecret = none

/-- Whether nothing has happened to a cluster but that some of the objects of a workspace are gone. -/
structure Sheds (w : Workspace) (s s' : Store) : Prop where
  namespaces : s'.namespaces = s.namespaces
  serviceAccounts : s'.serviceAccounts = s.serviceAccounts
  pods : s.pods.Sheds true w.resource s'.pods
  claims : s.claims.Sheds true w.resource s'.claims
  roleBindings : s.roleBindings.Sheds w.ownsBinding w.resource s'.roleBindings
  secrets : s.secrets.Sheds w.ownsSecret w.name.pullSecret s'.secrets

theorem isCleared_cleared (w : Workspace) (s : Store) : w.IsCleared (w.cleared s) where
  pod := by simp [cleared, Dict.get?_erase]
  claim := by simp [cleared, Dict.get?_erase]
  binding := Dict.get?_disown
  secret := Dict.get?_disown

theorem Sheds.refl (w : Workspace) (s : Store) : w.Sheds s s :=
  ⟨rfl, rfl, .inl rfl, .inl rfl, .inl rfl, .inl rfl⟩

/-- What a request takes away by which the workspace is deleted is an object of it. -/
theorem Sheds.answer {r : Request} (h : w.Sheds s t) (hDisposes : w.Disposes r) :
    w.Sheds s (t.answer around r).2 := by
  cases r with
  | deletePod name =>
    obtain rfl := hDisposes
    exact { h with pods := h.pods.erase rfl }
  | deleteClaim name =>
    obtain rfl := hDisposes
    exact { h with claims := h.claims.erase rfl }
  | deleteRoleBinding name =>
    obtain ⟨rfl, hOwned⟩ := hDisposes
    exact { h with roleBindings := h.roleBindings.erase hOwned }
  | deleteSecret name =>
    obtain ⟨rfl, hOwned⟩ := hDisposes
    exact { h with secrets := h.secrets.erase hOwned }
  | getSecret name => exact h
  | _ => exact hDisposes.elim

/-- It does not matter for the end of a deletion which objects of the workspace are gone already. -/
theorem Sheds.cleared_eq (h : w.Sheds s t) : w.cleared t = w.cleared s := by
  have hPods : t.pods.erase w.resource = s.pods.erase w.resource := h.pods.disown_eq
  have hClaims : t.claims.erase w.resource = s.claims.erase w.resource := h.claims.disown_eq
  simp only [cleared, hPods, hClaims, h.roleBindings.disown_eq, h.secrets.disown_eq, h.namespaces,
    h.serviceAccounts]

/-! ### The parts of a deletion -/

/-- A part of a deletion that is left out where it is about an object that is not owned. -/
def ifOwned (owned : Bool) (x : Action Unit) : Action Unit :=
  if owned then x else .done ()

section IfOwned

variable {owned : Bool} {x : Action Unit}

theorem asksOnly_ifOwned {P : Request → Prop} (h : owned = true → AsksOnly P x) :
    AsksOnly P (ifOwned owned x) := by
  cases owned with
  | false => exact asksOnly_done ()
  | true => exact h rfl

theorem insists_ifOwned (h : Insists x) : Insists (ifOwned owned x) := by
  cases owned with
  | false => exact insists_done ()
  | true => exact h

end IfOwned

def deleteBinding (w : Workspace) : Action Unit := do
  w.tell .info "Delete role binding" []
  request "delete role binding" (.deleteRoleBinding w.resource)

def deletePullSecret (w : Workspace) : Action Unit := do
  w.tell .info "Delete pull secret" [("secret", w.name.pullSecret)]
  .cancellable "delete pull secret" (PullSecret.delete w.name.pullSecret)

theorem delete_eq (w : Workspace) : w.delete = (do
    w.tell .info "Delete pod" []
    request "delete pod" (.deletePod w.resource)
    w.tell .info "Delete persistent volume claim" []
    request "delete pvc" (.deleteClaim w.resource)
    ifOwned w.ownsBinding w.deleteBinding
    ifOwned w.ownsSecret w.deletePullSecret) := by
  unfold delete ownsBinding ownsSecret
  cases w.options.manifest.clusterRole <;> cases w.options.manifest.pullSecretsEnabled <;> rfl

/-- A deletion asks for nothing but the deletion of objects of the workspace, and whether its pull
secret is there. -/
theorem asksOnly_delete : AsksOnly w.Disposes w.delete := by
  have hPod : w.Disposes (.deletePod w.resource) := rfl
  have hClaim : w.Disposes (.deleteClaim w.resource) := rfl
  have hBinding (hOwned : w.ownsBinding = true) : AsksOnly w.Disposes w.deleteBinding :=
    (asksOnly_tell _ _ _).andThen fun _ => asksOnly_request ⟨rfl, hOwned⟩
  have hSecret (hOwned : w.ownsSecret = true) : AsksOnly w.Disposes w.deletePullSecret := by
    refine (asksOnly_tell _ _ _).andThen fun _ => AsksOnly.cancellable ?_ _
    refine (asksOnly_ask (I := interface) ⟨rfl, hOwned⟩).andThen fun found => ?_
    cases found with
    | none => exact asksOnly_note _
    | some _ => exact asksOnly_ask (I := interface) ⟨rfl, hOwned⟩
  rw [delete_eq]
  exact (asksOnly_tell _ _ _).andThen fun _ => (asksOnly_request hPod).andThen fun _ =>
    (asksOnly_tell _ _ _).andThen fun _ => (asksOnly_request hClaim).andThen fun _ =>
    (asksOnly_ifOwned hBinding).andThen fun _ => asksOnly_ifOwned hSecret

theorem insists_request (operation : String) (r : Request) : Insists (request operation r) :=
  (insists_ask (I := interface) r).cancellable operation

theorem insists_delete : Insists w.delete := by
  have hBinding : Insists w.deleteBinding := (insists_note _).andThen fun _ => insists_request _ _
  have hSecret : Insists w.deletePullSecret := by
    refine (insists_note _).andThen fun _ => Insists.cancellable ?_ _
    refine (insists_ask (I := interface) _).andThen fun found => ?_
    cases found with
    | none => exact insists_note _
    | some _ => exact insists_ask (I := interface) _
  rw [delete_eq]
  exact (insists_note _).andThen fun _ => (insists_request _ _).andThen fun _ =>
    (insists_note _).andThen fun _ => (insists_request _ _).andThen fun _ =>
    (insists_ifOwned hBinding).andThen fun _ => insists_ifOwned hSecret

theorem yields_deleteBinding : Yields around s (ifOwned w.ownsBinding w.deleteBinding) ()
    { s with roleBindings := s.roleBindings.disown w.ownsBinding w.resource } := by
  cases w.ownsBinding with
  | false => exact yields_done ()
  | true => exact (yields_tell _ _ _ _).andThen (yields_request rfl)

theorem yields_deletePullSecret : Yields around s (ifOwned w.ownsSecret w.deletePullSecret) ()
    { s with secrets := s.secrets.disown w.ownsSecret w.name.pullSecret } := by
  cases w.ownsSecret with
  | false => exact yields_done ()
  | true =>
    refine (yields_tell _ _ _ _).andThen (Yields.cancellable ((yields_ask rfl).andThen ?_) _)
    -- Without a secret there is nothing to delete.
    cases hFound : s.secrets.get? w.name.pullSecret with
    | none =>
      have hGone : s.secrets.disown true w.name.pullSecret = s.secrets :=
        Dict.erase_of_get?_eq_none hFound
      rw [hGone]
      exact yields_note _
    | some _ => exact yields_ask rfl

/-- Where no call fails a deletion succeeds, and removes all objects of the workspace. -/
theorem yields_delete (w : Workspace) (around : Surroundings) (s : Store) :
    Yields around s w.delete () (w.cleared s) := by
  rw [delete_eq]
  exact (yields_tell _ _ _ _).andThen <| (yields_request rfl).andThen <|
    (yields_tell _ _ _ _).andThen <| (yields_request rfl).andThen <|
    yields_deleteBinding.andThen yields_deletePullSecret

/-! ### Attempts -/

/-- What some attempts to delete a workspace leave. Any call of each of them may fail, and each of them
may end early. -/
inductive Attempted (w : Workspace) (around : Surroundings) (s : Store) : Store → Prop
  | start : Attempted w around s s
  | again {t t' : Store} {steps rest : List (Step interface)} {ending : Result Unit}
      (hBefore : Attempted w around s t) (hRun : Runs w.delete (steps ++ rest) ending)
      (hFalters : Falters around t steps t') : Attempted w around s t'

/-- Whatever happens to an attempt, nothing is lost but objects of the workspace. -/
theorem Sheds.of_falters {rest : List (Step interface)} {ending : Result Unit} (h : w.Sheds s t)
    (hRun : Runs w.delete (steps ++ rest) ending) (hFalters : Falters around t steps t') :
    w.Sheds s t' :=
  hFalters.preserves h fun _ r a hMem hSheds =>
    hSheds.answer (asksOnly_delete hRun r a (List.mem_append_left _ hMem))

theorem Attempted.sheds (h : w.Attempted around s t) : w.Sheds s t := by
  -- On the attempts: each begins with what the ones before have left.
  induction h with
  | start => exact .refl w s
  | again _ hRun hFalters ih => exact ih.of_falters hRun hFalters

/-- However often the deletion of a workspace was tried before and wherever that stopped, the next
attempt asks only for deletions of objects of the workspace, and takes nothing else away. When it
succeeds they are all gone, and it does when none of its calls fails. -/
theorem delete_converges (h : w.Attempted around s t) :
    (∀ steps ending t', Runs w.delete steps ending → Falters around t steps t' →
      (∀ r a, .call r a ∈ steps → w.Disposes r) ∧ w.Sheds s t' ∧
        (ending = some (.ok ()) → t' = w.cleared s ∧ w.IsCleared t')) ∧
    (∃ steps, Runs w.delete steps (some (.ok ())) ∧ Serves around t steps (w.cleared s)) ∧
    ∀ steps ending t', Runs w.delete steps ending → Serves around t steps t' →
      ending = some (.ok ()) ∧ t' = w.cleared s := by
  have hSheds : w.Sheds s t := h.sheds
  have hYields : Yields around t w.delete () (w.cleared s) :=
    hSheds.cleared_eq ▸ yields_delete w around t
  refine ⟨fun steps ending t' hRun hFalters => ⟨asksOnly_delete hRun, ?_, ?_⟩, hYields.exists_run,
    fun steps ending t' hRun hServes => hYields hRun hServes⟩
  · rw [← List.append_nil steps] at hRun
    exact hSheds.of_falters hRun hFalters
  · -- An attempt that succeeds had no call that failed.
    rintro rfl
    obtain ⟨-, rfl⟩ := hYields.eq_of_falters insists_delete hRun hFalters
    exact ⟨rfl, isCleared_cleared w s⟩

/-! ### A deletion that is tried twice -/

/-- A workspace with a role binding and a pull secret. -/
def bound : Workspace :=
  { Workspace.notes with options := { Workspace.notes.options with
      manifest := { Workspace.notes.options.manifest with clusterRole := some "edit" } } }

/-- A cluster with all objects of that workspace, and with the claim of another one. -/
def populated : Store where
  claims := ((∅ : Dict VolumeClaim).insert bound.resource .notes).insert "devpod-other" .notes
  pods := (∅ : Dict StoredPod).insert bound.resource ⟨{}, []⟩
  secrets := (∅ : Dict Secret).insert bound.name.pullSecret {}
  roleBindings := (∅ : Dict RoleBinding).insert bound.resource default

/-- An attempt that has deleted the pod when it fails, and one after it. -/
theorem delete_converges_of_failed :
    ∃ t, bound.Attempted {} populated t ∧ t.pods.get? bound.resource = none ∧
      (t.claims.get? bound.resource).isSome = true ∧
      (∃ steps, Runs bound.delete steps (some (.ok ())) ∧
        Serves {} t steps (bound.cleared populated)) ∧
      ((bound.cleared populated).claims.get? "devpod-other").isSome = true := by
  let f := Failure.ofCommand "delete pvc" "refused"
  have hRun : Runs bound.delete
      ([.call (.deletePod bound.resource) (some (.ok ())),
        .call (.deleteClaim bound.resource) (some (.error f))] ++ []) (some (.error f)) :=
    .log (.call _ (.log (.call _ (.fail f))))
  have hAttempted : bound.Attempted {} populated (populated.answer {} (.deletePod bound.resource)).2 :=
    .again .start hRun (.answered (.failed nofun (.nil _)))
  exact ⟨_, hAttempted, by decide +kernel, by decide +kernel, (delete_converges hAttempted).2.1,
    by decide +kernel⟩

end Workspace

end PodWorkspace
