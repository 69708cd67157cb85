import Mathlib.Data.List.Basic
import PodWorkspace.Proofs.Manifest.Merge

/-! What the placement of a pod does to it. The pod is the one that is built without a placement,
with another account, other pull secrets and one more term of pod affinity. The term stands behind
those of the template, but the pull secret takes the place of the template's. -/

namespace PodWorkspace

open Cluster

/-- The volumes that a pod declares. -/
def Cluster.Pod.volumes (pod : Pod) : List Volume := (pod.spec.bind (·.volumes)).getD []

/-- The names of the secrets with which the images of a pod are pulled. -/
def Cluster.Pod.pullSecrets (pod : Pod) : List String := pod.pullSecrets?.getD []

/-- The terms of pod affinity that an affinity requires. -/
def Cluster.Affinity.requiredTerms (affinity : Affinity) : List Json :=
  (affinity.podAffinity.bind (·.required)).getD []

/-- The terms of pod affinity that a pod requires. -/
def Cluster.Pod.requiredTerms (pod : Pod) : List Json :=
  ((pod.spec.bind (·.affinity)).getD {}).requiredTerms

/-- An affinity without the terms of pod affinity that it requires. -/
def Cluster.Affinity.withoutTerms (affinity : Affinity) : Affinity :=
  { affinity with podAffinity := some { affinity.podAffinity.getD {} with required := none } }

/-- A pod without its account, its pull secrets and the terms of pod affinity that it requires. -/
def Cluster.Pod.unplaced (pod : Pod) : Pod :=
  { pod with
    spec := pod.spec.map fun spec => { spec with
      serviceAccountName := none
      imagePullSecrets := none
      affinity := some (spec.affinity.getD {}).withoutTerms } }

namespace Manifest

variable {s : Setting} {w : WorkspaceName} {spec : RunSpec} {template : Option Pod} {fresh : Bool}
  {placement : Placement} {pod first second : Pod}

/-- What a placement keeps of a pod, its pull secrets aside: all entries of its lists in their
order, and all else but its account. -/
structure KeepsContent (first second : Pod) : Prop where
  containers : (Readiness.declaredContainers first).Sublist (Readiness.declaredContainers second)
  inits : (Readiness.declaredInits first).Sublist (Readiness.declaredInits second)
  volumes : first.volumes.Sublist second.volumes
  terms : first.requiredTerms.Sublist second.requiredTerms
  rest : second.unplaced = first.unplaced

/-- Whether a pod has all that another one has, in the same order, but for its account. -/
structure OnlyAdds (first second : Pod) : Prop extends KeepsContent first second where
  pullSecrets : first.pullSecrets.Sublist second.pullSecrets

/-! ### Affinities -/

theorem requiredTerms_requiring (term : Json) (affinity : Option Affinity) :
    (requiring term affinity).requiredTerms = (affinity.getD {}).requiredTerms ++ [term] := by
  cases hPods : (affinity.getD {}).podAffinity <;>
    simp [requiring, Affinity.requiredTerms, hPods]

theorem withoutTerms_requiring (term : Json) (affinity : Option Affinity) :
    (requiring term affinity).withoutTerms = (affinity.getD {}).withoutTerms := rfl

/-- A placement leaves the affinity of a pod, or adds a term to it. -/
theorem affinity_placed (s : Setting) (placement : Placement) (spec : PodSpec) :
    (placed s placement spec).affinity = spec.affinity ∨
      ∃ term, (placed s placement spec).affinity = some (requiring term spec.affinity) := by
  unfold placed
  split
  · exact .inr ⟨_, rfl⟩
  · exact .inl rfl

/-! ### Placed pods -/

theorem requiredTerms_placedPod :
    pod.requiredTerms.Sublist (placedPod s placement pod).requiredTerms := by
  cases hSpec : pod.spec with
  | none => simp [Pod.requiredTerms, placedPod, hSpec]
  | some podSpec =>
    obtain hSame | ⟨term, hAdded⟩ := affinity_placed s placement podSpec
    · simp [Pod.requiredTerms, placedPod, hSpec, hSame]
    · simp [Pod.requiredTerms, placedPod, hSpec, hAdded, requiredTerms_requiring]

theorem unplaced_placedPod : (placedPod s placement pod).unplaced = pod.unplaced := by
  cases hSpec : pod.spec with
  | none => simp [Pod.unplaced, placedPod, hSpec]
  | some podSpec =>
    have hAffinity : ((placed s placement podSpec).affinity.getD {}).withoutTerms =
        (podSpec.affinity.getD {}).withoutTerms := by
      obtain hSame | ⟨term, hAdded⟩ := affinity_placed s placement podSpec
      · rw [hSame]
      · rw [hAdded, Option.getD_some, withoutTerms_requiring]
    simp only [Pod.unplaced, placedPod, hSpec, Option.map_some, hAffinity]
    rfl

theorem keepsContent_placedPod : KeepsContent pod (placedPod s placement pod) where
  containers := by cases hSpec : pod.spec <;>
    simp [Readiness.declaredContainers, placedPod, hSpec, placed]
  inits := by cases hSpec : pod.spec <;>
    simp [Readiness.declaredInits, placedPod, hSpec, placed]
  volumes := by cases hSpec : pod.spec <;> simp [Pod.volumes, placedPod, hSpec, placed]
  terms := requiredTerms_placedPod
  rest := unplaced_placedPod

/-- The pod that is built without a placement can be built wherever it is placed. -/
theorem workspacePod_of_default (placement : Placement)
    (h : (workspacePod s w spec template fresh {}).outcome = .ok pod) :
    (workspacePod s w spec template fresh placement).outcome = .ok (placedPod s placement pod) := by
  rw [workspacePod_ok] at h ⊢
  obtain ⟨bare, hBare, rfl⟩ := h
  exact ⟨bare, hBare, by rw [placedPod_default]⟩

/-- Whether a pod can be built, and how that fails, does not depend on where it is placed. -/
theorem verdict_workspacePod (placement other : Placement) :
    (workspacePod s w spec template fresh placement).outcome.map (fun _ => ()) =
      (workspacePod s w spec template fresh other).outcome.map fun _ => () := by
  rw [outcome_workspacePod, outcome_workspacePod]
  cases (unplacedPod s w spec template fresh).outcome <;> rfl

/-- The pull secrets of a pod are the one of its placement, else those of the template. -/
theorem pullSecrets_workspacePod
    (h : (workspacePod s w spec template fresh placement).outcome = .ok pod) :
    pod.pullSecrets =
      (placement.pullSecret.map ([·])).getD ((template.bind Pod.pullSecrets?).getD []) := by
  obtain ⟨-, -, hSecrets⟩ := workspacePod_placed h
  rw [Pod.pullSecrets, hSecrets]
  cases placement.pullSecret <;> rfl

/-- A pod that can be built without a placement can be built with one, which keeps its content, and
keeps its pull secrets exactly when it brings none or the template has no other. -/
theorem onlyAdds_iff_of_default (placement : Placement)
    (h : (workspacePod s w spec template fresh {}).outcome = .ok first) :
    ∃ second, (workspacePod s w spec template fresh placement).outcome = .ok second ∧
      KeepsContent first second ∧
      (OnlyAdds first second ↔ ∀ secret, placement.pullSecret = some secret →
        (template.bind Pod.pullSecrets?).getD [] = [] ∨
          (template.bind Pod.pullSecrets?).getD [] = [secret]) := by
  have hPlaced := workspacePod_of_default placement h
  have hKeeps : KeepsContent first (placedPod s placement first) := keepsContent_placedPod
  have hSecrets : OnlyAdds first (placedPod s placement first) ↔
      first.pullSecrets.Sublist (placedPod s placement first).pullSecrets :=
    ⟨OnlyAdds.pullSecrets, OnlyAdds.mk hKeeps⟩
  refine ⟨_, hPlaced, hKeeps, ?_⟩
  rw [hSecrets, pullSecrets_workspacePod h, pullSecrets_workspacePod hPlaced]
  cases placement.pullSecret with
  | none => simp
  | some secret => simp

/-- A template with a pull secret and a term of pod affinity. -/
def guardedTemplate : Pod where
  spec := some {
    imagePullSecrets := some ["team-registry"]
    affinity := some { podAffinity := some { required := some [.ofMembers []] } } }

/-- A placement without a pull secret keeps that of the template. -/
theorem onlyAdds_iff_of_guardedTemplate : ∃ first second,
    (workspacePod ⟨{}, "team"⟩ ⟨"notes"⟩ plainSpec (some guardedTemplate) false {}).outcome =
      .ok first ∧
    (workspacePod ⟨{}, "team"⟩ ⟨"notes"⟩ plainSpec (some guardedTemplate) false
      { serviceAccount := some "builder", affinityWorkspace := some "devpod-notes" }).outcome =
        .ok second ∧
    OnlyAdds first second := by
  obtain ⟨first, hFirst⟩ : ∃ first, (workspacePod ⟨{}, "team"⟩ ⟨"notes"⟩ plainSpec
      (some guardedTemplate) false {}).outcome = .ok first := ⟨_, rfl⟩
  obtain ⟨second, hSecond, -, hAdds⟩ := onlyAdds_iff_of_default
    { serviceAccount := some "builder", affinityWorkspace := some "devpod-notes" } hFirst
  exact ⟨first, second, hFirst, hSecond, hAdds.2 nofun⟩

/-- A placement with a pull secret drops that of the template. -/
theorem guardedPod_loses_secret : ∃ first second,
    (workspacePod ⟨{}, "team"⟩ ⟨"notes"⟩ plainSpec (some guardedTemplate) false {}).outcome =
      .ok first ∧
    (workspacePod ⟨{}, "team"⟩ ⟨"notes"⟩ plainSpec (some guardedTemplate) false
      { pullSecret := some "devpod-pull-secret-notes" }).outcome = .ok second ∧
    first.pullSecrets = ["team-registry"] ∧ second.pullSecrets = ["devpod-pull-secret-notes"] ∧
    ¬first.pullSecrets.Sublist second.pullSecrets :=
  ⟨_, _, rfl, rfl, rfl, rfl, by decide⟩

end Manifest

end PodWorkspace
