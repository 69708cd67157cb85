import PodWorkspace.Proofs.Simulation.Frame

/-! Pods that stay where they are. A pod is lasting when it neither vanishes on its own nor cannot be
looked at in any of the phases before it; a look at such a pod shows it with its annotations and
leaves all objects as they are, but for the phases that come next. -/

namespace PodWorkspace.Simulation

open Cluster Program

/-- Whether a pod in a phase is there and can be looked at. -/
def Phase.lasts : Phase → Bool
  | .gone | .error _ => false
  | _ => true

def Lasting (phases : List Phase) : Prop :=
  ∀ phase ∈ phases, phase.lasts = true

theorem Phase.shown_of_lasts {phase : Phase} (h : phase.lasts = true) (pod : Pod) :
    ∃ shown, phase.shown pod = .ok (some shown) ∧
      shown.metadata.annotations = pod.metadata.annotations := by
  cases phase with
  | gone | error => cases h
  | _ => exact ⟨_, rfl, rfl⟩

theorem Lasting.head {phases : List Phase} (h : Lasting phases) :
    (phases.headD (.up true)).lasts = true := by
  cases phases with
  | nil => rfl
  | cons phase later => exact h phase List.mem_cons_self

namespace Store

variable {around : Surroundings} {s s' : Store} {name : String} {stored : StoredPod}

/-- A look at a lasting pod shows it, and the pod lasts on. -/
theorem observePod_of_lasting (hStored : s.pods.get? name = some stored)
    (hLasting : Lasting stored.phases) :
    ∃ shown later, s.observePod name =
        (.ok (some shown),
          { s with pods := s.pods.insert name { stored with phases := later } }) ∧
      shown.metadata.annotations = stored.pod.metadata.annotations ∧ Lasting later := by
  obtain ⟨shown, hShown, hSame⟩ := Phase.shown_of_lasts hLasting.head stored.pod
  refine ⟨shown, if stored.phases.length ≤ 1 then stored.phases else stored.phases.tail, ?_, hSame, ?_⟩
  · simp only [observePod, hStored, hShown]
  · intro phase hMem
    refine hLasting phase ?_
    split at hMem
    · exact hMem
    · exact List.mem_of_mem_tail hMem

/-- The objects of a store, without the phases that its pods have before them. -/
def objects (s : Store) : Store :=
  { s with pods := s.pods.mapValues fun stored => ⟨stored.pod, []⟩ }

/-- A look at a lasting pod leaves all objects as they are. -/
theorem objects_observePod (hStored : s.pods.get? name = some stored)
    (hLasting : Lasting stored.phases) : (s.observePod name).2.objects = s.objects := by
  obtain ⟨shown, later, hLook, -, -⟩ := observePod_of_lasting hStored hLasting
  have hSame : (s.pods.mapValues fun stored => (⟨stored.pod, []⟩ : StoredPod)).get? name =
      some ⟨stored.pod, []⟩ := by
    rw [Dict.get?_mapValues, hStored]
    rfl
  rw [hLook, objects, objects, Dict.mapValues_insert, Dict.insert_of_get? hSame]

end Store

end PodWorkspace.Simulation
