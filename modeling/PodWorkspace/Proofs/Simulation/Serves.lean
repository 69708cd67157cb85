import PodWorkspace.Proofs.Dict
import PodWorkspace.Proofs.Workspace.Stage
import PodWorkspace.Simulation.Store

/-! Runs against a simulated cluster in which every call is answered. What one request leaves as it
is in the store stays as it is over all steps that ask nothing else. -/

namespace PodWorkspace.Simulation

open Cluster Program

/-- The objects of a cluster before and after some steps in which it answers every call. Nothing is
said about the clock, and sleeps may be cut off. -/
inductive Serves (around : Surroundings) : Store → List (Step interface) → Store → Prop
  | nil (s : Store) : Serves around s [] s
  | call {s s' : Store} {r : Request} {steps : List (Step interface)}
      (hRest : Serves around (s.answer around r).2 steps s') :
      Serves around s (.call r (some (s.answer around r).1) :: steps) s'
  | clock {s s' : Store} {now : Duration} {steps : List (Step interface)}
      (hRest : Serves around s steps s') : Serves around s (.clock now :: steps) s'
  | sleep {s s' : Store} {till : Duration} {slept : Bool} {steps : List (Step interface)}
      (hRest : Serves around s steps s') : Serves around s (.sleep till slept :: steps) s'

namespace Serves

variable {around : Surroundings} {s s' : Store} {steps before after : List (Step interface)}

theorem split (h : Serves around s (before ++ after) s') :
    ∃ between, Serves around s before between ∧ Serves around between after s' := by
  induction before generalizing s with
  | nil => exact ⟨s, .nil s, h⟩
  | cons step before ih =>
    cases h with
    | call hRest =>
      obtain ⟨between, hBefore, hAfter⟩ := ih hRest
      exact ⟨between, .call hBefore, hAfter⟩
    | clock hRest =>
      obtain ⟨between, hBefore, hAfter⟩ := ih hRest
      exact ⟨between, .clock hBefore, hAfter⟩
    | sleep hRest =>
      obtain ⟨between, hBefore, hAfter⟩ := ih hRest
      exact ⟨between, .sleep hBefore, hAfter⟩

theorem answer_eq {r : Request} {a : Result r.Answer}
    (h : Serves around s (.call r a :: steps) s') : a = some (s.answer around r).1 := by
  cases h
  rfl

theorem eq_answer {r : Request} {a : Except Failure r.Answer}
    (h : Serves around s (.call r (some a) :: steps) s') : a = (s.answer around r).1 :=
  Option.some.inj h.answer_eq

theorem rest {r : Request} {a : Result r.Answer} (h : Serves around s (.call r a :: steps) s') :
    Serves around (s.answer around r).2 steps s' := by
  cases h
  assumption

theorem eq_of_nil (h : Serves around s [] s') : s' = s := by
  cases h
  rfl

/-- What holds of the store and outlives each request as it is answered still holds at the end. -/
theorem preserves_answered {P : Store → Prop} (h : Serves around s steps s') (hStart : P s)
    (hStep : ∀ s r, .call r (some (s.answer around r).1) ∈ steps → P s → P (s.answer around r).2) :
    P s' := by
  induction h with
  | nil => exact hStart
  | call hRest ih =>
    exact ih (hStep _ _ List.mem_cons_self hStart)
      fun s r hMem => hStep s r (List.mem_cons_of_mem _ hMem)
  | clock hRest ih | sleep hRest ih =>
    exact ih hStart fun s r hMem => hStep s r (List.mem_cons_of_mem _ hMem)

/-- What holds of the store and outlives each request that is asked still holds at the end. -/
theorem preserves {P : Store → Prop} (h : Serves around s steps s') (hStart : P s)
    (hStep : ∀ s r a, .call r a ∈ steps → P s → P (s.answer around r).2) : P s' :=
  h.preserves_answered hStart fun s r hMem => hStep s r _ hMem

/-- What holds of the store and outlives each request that is asked holds when each is answered. -/
theorem answered {P : Store → Prop} (h : Serves around s steps s') (hStart : P s)
    (hStep : ∀ s r a, .call r a ∈ steps → P s → P (s.answer around r).2) {r : Request}
    {a : Result r.Answer} (hMem : .call r a ∈ steps) :
    ∃ between, P between ∧ a = some (between.answer around r).1 := by
  obtain ⟨before, after, rfl⟩ := List.append_of_mem hMem
  obtain ⟨between, hBefore, hAfter⟩ := h.split
  refine ⟨between, ?_, hAfter.answer_eq⟩
  exact hBefore.preserves hStart fun s r a hMem => hStep s r a (List.mem_append_left _ hMem)

end Serves

namespace Store

variable {around : Surroundings} {s : Store} {r : Request}

theorem claims_observePod (s : Store) (name : String) : (s.observePod name).2.claims = s.claims := by
  unfold observePod
  split
  · rfl
  · dsimp only
    split <;> rfl

theorem claims_createPod (s : Store) (pod : Pod) : (s.createPod around pod).2.claims = s.claims := by
  unfold createPod
  split <;> rfl

theorem claims_withNamespace (s : Store) (name : String) :
    (s.withNamespace name).claims = s.claims := by
  unfold withNamespace
  split <;> rfl

theorem pods_withNamespace (s : Store) (name : String) : (s.withNamespace name).pods = s.pods := by
  unfold withNamespace
  split <;> rfl

theorem claims_answer (h : r.changesClaims = false) : (s.answer around r).2.claims = s.claims := by
  cases r with
  | createNamespace name => exact claims_withNamespace s name
  | getPod name => exact claims_observePod s name
  | createPod pod => exact claims_createPod s pod
  | createClaim claim => cases h
  | deleteClaim name => cases h
  | podLogs pod container =>
    simp only [answer]
    split <;> rfl
  | exec pod container command stdin =>
    simp only [answer]
    split <;> rfl
  | _ => rfl

/-- A claim that is created is stored with its annotations. -/
theorem get?_createClaim (around : Surroundings) (s : Store) (claim : VolumeClaim) :
    ∃ stored, (s.answer around (.createClaim claim)).2.claims.get? claim.name = some stored ∧
      stored.metadata.annotations = claim.metadata.annotations :=
  ⟨_, Dict.get?_insert_self _ _ _, rfl⟩

/-- Only a deletion takes a claim away. -/
theorem isSome_claim_answer {name : String} (hDelete : ∀ name, r ≠ .deleteClaim name)
    (h : (s.claims.get? name).isSome = true) :
    ((s.answer around r).2.claims.get? name).isSome = true := by
  cases r with
  | createClaim claim =>
    simp only [answer, Dict.get?_insert]
    split
    · rfl
    · exact h
  | deleteClaim name => exact absurd rfl (hDelete name)
  | _ =>
    rw [claims_answer rfl]
    exact h

theorem pods_answer (h : r.stage = some .opening ∨ r.stage = some .preparing) :
    (s.answer around r).2.pods = s.pods := by
  cases r with
  | createNamespace name => exact pods_withNamespace s name
  | getPod | createPod | deletePod | deletePodAndWait | forceDeletePods | podLogs | exec =>
    rcases h with h | h <;> cases h
  | _ => rfl

end Store

/-- Steps that come before the handling of pods leave them as they are. -/
theorem Serves.pods_eq {around : Surroundings} {s s' : Store} {steps : List (Step interface)}
    (h : Serves around s steps s')
    (hStage : ∀ r a, .call r a ∈ steps →
      Request.stage r = some .opening ∨ Request.stage r = some .preparing) : s'.pods = s.pods :=
  h.preserves (P := fun t => t.pods = s.pods) rfl fun _ r a hMem hPods =>
    (Store.pods_answer (hStage r a hMem)).trans hPods

/-- Steps that change no claims leave them as they are. -/
theorem Serves.claims_eq {around : Surroundings} {s s' : Store} {steps : List (Step interface)}
    (h : Serves around s steps s')
    (hKept : ∀ r a, .call r a ∈ steps → Request.changesClaims r = false) : s'.claims = s.claims :=
  h.preserves (P := fun t => t.claims = s.claims) rfl fun _ r a hMem hClaims =>
    (Store.claims_answer (hKept r a hMem)).trans hClaims

end PodWorkspace.Simulation
