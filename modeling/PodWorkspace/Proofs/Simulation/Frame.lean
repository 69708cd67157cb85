import PodWorkspace.Proofs.Readiness.Wait
import PodWorkspace.Proofs.Simulation.Serves

/-! What stays as it is in a simulated cluster while only one of its pods is looked at and deleted:
all other objects, and the pod itself for as long as it is there. -/

namespace PodWorkspace.Simulation

open Cluster Program

namespace Store

variable {around : Surroundings} {s s' s'' : Store} {name : String} {r : Request}

/-- The pod of a name, whatever phases it has before it. -/
def pod? (s : Store) (name : String) : Option Pod :=
  (s.pods.get? name).map (·.pod)

/-- Whether all objects are kept but the pod of a name, which is kept or lost. -/
structure Keeps (name : String) (s s' : Store) : Prop where
  namespaces : s'.namespaces = s.namespaces
  claims : s'.claims = s.claims
  secrets : s'.secrets = s.secrets
  serviceAccounts : s'.serviceAccounts = s.serviceAccounts
  roleBindings : s'.roleBindings = s.roleBindings
  others : ∀ other, other ≠ name → s'.pods.get? other = s.pods.get? other
  pod : s'.pod? name = s.pod? name ∨ s'.pod? name = none

theorem Keeps.refl (name : String) (s : Store) : Keeps name s s :=
  ⟨rfl, rfl, rfl, rfl, rfl, fun _ _ => rfl, .inl rfl⟩

theorem Keeps.trans (h : Keeps name s s') (h' : Keeps name s' s'') : Keeps name s s'' where
  namespaces := h'.namespaces.trans h.namespaces
  claims := h'.claims.trans h.claims
  secrets := h'.secrets.trans h.secrets
  serviceAccounts := h'.serviceAccounts.trans h.serviceAccounts
  roleBindings := h'.roleBindings.trans h.roleBindings
  others other hOther := (h'.others other hOther).trans (h.others other hOther)
  pod := by
    obtain hSame | hLost := h'.pod
    · exact h.pod.imp hSame.trans hSame.trans
    · exact .inr hLost

/-- What is asked without a change leaves all objects alone, a look at a pod aside. -/
theorem answer_eq_self (hKeeps : r.changesObjects = false) (hLook : r.looksAtPod = false) :
    (s.answer around r).2 = s := by
  cases r with
  | getPod name => cases hLook
  | podLogs pod container =>
    simp only [answer]
    split <;> rfl
  | exec pod container command stdin =>
    simp only [answer]
    split <;> rfl
  | getClaim | listPods | getSecret | getServiceAccount | getRoleBinding | lookUp => rfl
  | _ => cases hKeeps

/-- The stores in which only what is kept under a name in the pods is another. -/
theorem keeps_of_pods {pods : Dict StoredPod}
    (hOthers : ∀ other, other ≠ name → pods.get? other = s.pods.get? other)
    (hPod : ({ s with pods } : Store).pod? name = s.pod? name ∨
      ({ s with pods } : Store).pod? name = none) : Keeps name s { s with pods } :=
  ⟨rfl, rfl, rfl, rfl, rfl, hOthers, hPod⟩

theorem keeps_erase (s : Store) (name : String) :
    Keeps name s { s with pods := s.pods.erase name } :=
  keeps_of_pods (fun other hOther => by rw [Dict.get?_erase, if_neg hOther])
    (.inr (by simp [pod?, Dict.get?_erase]))

/-- A look at a pod finds none, then or from then on, or shows it and moves its phases. -/
theorem observePod_cases (s : Store) (name : String) :
    s.observePod name = (.ok none, s) ∨
      s.observePod name = (.ok none, { s with pods := s.pods.erase name }) ∨
      ∃ stored later answer, s.pods.get? name = some stored ∧
        s.observePod name =
          (answer, { s with pods := s.pods.insert name { stored with phases := later } }) := by
  unfold observePod
  split
  · exact .inl rfl
  · rename_i stored hStored
    dsimp only
    split
    · exact .inr (.inl rfl)
    · exact .inr (.inr ⟨stored, _, _, hStored, rfl⟩)
    · exact .inr (.inr ⟨stored, _, _, hStored, rfl⟩)

theorem pod?_insert {stored : StoredPod} (hStored : s.pods.get? name = some stored)
    (later : List Phase) :
    ({ s with pods := s.pods.insert name { stored with phases := later } } : Store).pod? name =
      s.pod? name := by
  simp [pod?, hStored]

theorem keeps_observePod (s : Store) (name : String) : Keeps name s (s.observePod name).2 := by
  obtain hNone | hLost | ⟨stored, later, answer, hStored, hShown⟩ := observePod_cases s name
  · rw [hNone]
    exact .refl name s
  · rw [hLost]
    exact keeps_erase s name
  · rw [hShown]
    exact keeps_of_pods (fun other hOther => by rw [Dict.get?_insert, if_neg hOther])
      (.inl (pod?_insert hStored later))

theorem pod?_observePod (h : (s.observePod name).1 ≠ .ok none) :
    (s.observePod name).2.pod? name = s.pod? name := by
  obtain hNone | hLost | ⟨stored, later, answer, hStored, hShown⟩ := observePod_cases s name
  · rw [hNone]
  · simp [hLost] at h
  · rw [hShown]
    exact pod?_insert hStored later

/-- The removal of the pods that a selector finds takes away those, and no others. -/
theorem pod?_forceDeletePods {selector : String} :
    (s.answer around (.forceDeletePods selector)).2.pod? name =
      (s.pod? name).filter fun pod => !selects selector pod := by
  ext pod
  simp only [pod?, answer, Option.map_eq_some_iff, Option.filter_eq_some_iff, Dict.get?_eq_some_iff,
    Dict.filter, List.mem_filter]
  constructor
  · rintro ⟨stored, ⟨hMem, hKept⟩, rfl⟩
    exact ⟨⟨stored, hMem, rfl⟩, hKept⟩
  · rintro ⟨⟨stored, hMem, rfl⟩, hKept⟩
    exact ⟨stored, ⟨hMem, hKept⟩, rfl⟩

/-- What is asked about one pod keeps all other objects. -/
theorem keeps_answer
    (h : Readiness.IsAbout name r ∨ r.changesObjects = false ∧ r.looksAtPod = false) :
    Keeps name s (s.answer around r).2 := by
  obtain (rfl | rfl) | ⟨hKeeps, hLook⟩ := h
  · exact keeps_observePod s name
  · exact keeps_erase s name
  · rw [answer_eq_self hKeeps hLook]
    exact .refl name s

/-- A pod is lost only by its deletion and by a look that shows none. -/
theorem pod?_answer (h : Readiness.IsAbout name r ∨ r.changesObjects = false ∧ r.looksAtPod = false)
    (hDelete : r ≠ .deletePod name)
    (hLook : Step.call (I := interface) r (some (s.answer around r).1) ≠
      .call (.getPod name) (some (.ok none))) :
    (s.answer around r).2.pod? name = s.pod? name := by
  obtain (rfl | rfl) | ⟨hKeeps, hLook⟩ := h
  · exact pod?_observePod fun hNone => hLook (congrArg (fun a => Step.call _ (some a)) hNone)
  · exact absurd rfl hDelete
  · rw [answer_eq_self hKeeps hLook]

end Store

namespace Serves

variable {around : Surroundings} {s s' : Store} {steps : List (Step interface)} {name : String}

/-- Steps that ask about one pod alone keep all other objects. -/
theorem keeps (h : Serves around s steps s')
    (hAsked : ∀ r a, .call r a ∈ steps →
      Readiness.IsAbout name r ∨ Request.changesObjects r = false ∧ Request.looksAtPod r = false) :
    s.Keeps name s' :=
  h.preserves (P := s.Keeps name) (.refl name s) fun _ r a hMem hKeeps =>
    hKeeps.trans (Store.keeps_answer (hAsked r a hMem))

/-- They also keep that pod, unless they delete it or find that there is none. -/
theorem pod?_eq (h : Serves around s steps s')
    (hAsked : ∀ r a, .call r a ∈ steps →
      Readiness.IsAbout name r ∨ Request.changesObjects r = false ∧ Request.looksAtPod r = false)
    (hDelete : ∀ a, .call (.deletePod name) a ∉ steps)
    (hLook : .call (.getPod name) (some (.ok none)) ∉ steps) : s'.pod? name = s.pod? name :=
  h.preserves_answered (P := fun t => t.pod? name = s.pod? name) rfl fun _ r hMem hPod =>
    (Store.pod?_answer (hAsked r _ hMem) (fun hEq => by subst hEq; exact hDelete _ hMem)
      fun hEq => hLook (hEq ▸ hMem)).trans hPod

end Serves

end PodWorkspace.Simulation
