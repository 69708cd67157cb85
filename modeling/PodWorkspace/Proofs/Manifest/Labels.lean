import PodWorkspace.Manifest.Access
import PodWorkspace.Manifest.DetectionPod
import PodWorkspace.Manifest.WorkspaceClaim
import PodWorkspace.Proofs.Dict
import PodWorkspace.Proofs.Manifest.WorkspacePod
import PodWorkspace.Proofs.Text.Split
import PodWorkspace.Simulation.Store

/-! The labels of the objects of a workspace. On its pod the provider's own are what they are whatever
the user gives; every other label is the one of `LABELS`, else the one of the template. So the pod is
found by the selector for detection pods exactly when the user gives it the label of one. A detection
pod has the labels of its template and the one that names the workspace. -/

namespace PodWorkspace

open Cluster

namespace Simulation.Store

variable {w : WorkspaceName} {pod : Pod}

/-- The selector for detection pods finds the pods whose label names the workspace. -/
theorem selects_detectionSelector : selects w.detectionSelector pod = true ↔
    pod.metadata.label? workspaceLabel = some w.resource := by
  have hCut : Text.cut '=' w.detectionSelector = some (workspaceLabel, w.resource) :=
    Text.cut_append (by decide) w.resource
  simp [selects, hCut]

end Simulation.Store

namespace Manifest

variable {s : Setting} {w : WorkspaceName} {spec : RunSpec} {template : Option Pod} {fresh : Bool}
  {placement : Placement} {pod : Pod}

/-- What a list in the options gives for a key, if it can be read. -/
def given? (raw : Option String) (key : String) : Option String :=
  raw.bind fun raw => (keyValues raw).toOption.bind (·.get? key)

/-- The label that the user gives the pod of a workspace: that of `LABELS`, else that of the
template. -/
def givenLabel? (s : Setting) (template : Option Pod) (key : String) : Option String :=
  (given? s.options.labels key).or (template.bind (·.metadata.label? key))

theorem get?_overlay {option : String} {d labels : Dict String} {raw : Option String}
    (h : overlay option d raw = .ok labels) (key : String) :
    labels.get? key = (given? raw key).or (d.get? key) := by
  cases raw with
  | none =>
    cases h
    rfl
  | some raw =>
    simp only [overlay, parseKeyValues] at h
    cases hRead : keyValues raw with
    | error fault => simp [hRead, Except.map] at h
    | ok given =>
      simp only [hRead, Except.map, Except.ok.injEq] at h
      rw [← h, Dict.get?_insertAll]
      simp [given?, hRead, Except.toOption]

theorem get?_createdLabels (key : String) :
    createdLabels.get? key = if key = createdLabel then some "true" else none :=
  Dict.lookup_cons_eq_ite _ _ _

theorem label?_createdMeta (name «namespace» : String) :
    (createdMeta name «namespace»).label? createdLabel = some "true" :=
  get?_createdLabels createdLabel

theorem get?_podLabels {declared labels : Dict String} (h : podLabels s spec declared = .ok labels)
    (key : String) : labels.get? key =
      if key = workspaceUidLabel then some spec.uid
      else if key = createdLabel then some "true"
      else (given? s.options.labels key).or (declared.get? key) := by
  unfold podLabels at h
  cases hOverlay : overlay "LABELS" declared s.options.labels with
  | error f => simp [hOverlay, bind, Except.bind] at h
  | ok overlaid =>
    simp only [hOverlay, bind, Except.bind, pure, Except.pure, Except.ok.injEq] at h
    rw [← h, Dict.get?_insert, Dict.get?_insertAll, get?_overlay hOverlay, get?_createdLabels]
    split
    · rfl
    · split <;> rfl

/-- The labels of the pod of a workspace. -/
theorem label?_workspacePod
    (h : (workspacePod s w spec template fresh placement).outcome = .ok pod) (key : String) :
    pod.metadata.label? key =
      if key = workspaceUidLabel then some spec.uid
      else if key = createdLabel then some "true"
      else givenLabel? s template key := by
  obtain ⟨bare, hBare, rfl⟩ := workspacePod_ok.1 h
  obtain ⟨i, hSuit, rfl⟩ := unplacedPod_eq_ok_iff.1 hBare
  -- The labels that a template declares are those that the pod starts from.
  have hDeclared : (((template.getD barePod).metadata.labels.getD ∅).get? key) =
      template.bind (·.metadata.label? key) := by
    cases template with
    | none => rfl
    | some pod => cases hLabels : pod.metadata.labels <;> simp [ObjectMeta.label?, hLabels]
  rw [givenLabel?, ← hDeclared]
  exact get?_podLabels hSuit.labels key

theorem label?_workspaceClaim {record : WorkspaceRecord} {claim : VolumeClaim}
    (h : (workspaceClaim s w record).outcome = .ok claim) (key : String) :
    claim.metadata.label? key =
      if key = workspaceUidLabel then some record.spec.uid
      else if key = createdLabel then some "true"
      else none := by
  obtain ⟨size, -, h⟩ := Logged.outcome_bind_eq_ok.1 h
  obtain ⟨extra, -, h⟩ := Logged.outcome_bind_eq_ok.1 h
  obtain rfl := Except.ok.inj h
  rw [← get?_createdLabels]
  exact Dict.get?_insert _ _ _ _

theorem label?_detectionPod (name key : String) :
    (detectionPod s w name template).metadata.label? key =
      if key = workspaceLabel then some w.resource
      else template.bind (·.metadata.label? key) := by
  have hLabels : (detectionPod s w name template).metadata.label? key =
      (((template.getD {}).metadata.labels.getD ∅).insert workspaceLabel w.resource).get? key := rfl
  rw [hLabels, Dict.get?_insert]
  cases template with
  | none => rfl
  | some pod => cases hDeclared : pod.metadata.labels <;> simp [ObjectMeta.label?, hDeclared]

/-- The pod of a workspace is found by the selector for its detection pods when the user gives it the
label of one. -/
theorem selects_workspacePod
    (h : (workspacePod s w spec template fresh placement).outcome = .ok pod) :
    Simulation.Store.selects w.detectionSelector pod = true ↔
      givenLabel? s template workspaceLabel = some w.resource := by
  have hUid : workspaceLabel ≠ workspaceUidLabel := by decide
  have hCreated : workspaceLabel ≠ createdLabel := by decide
  rw [Simulation.Store.selects_detectionSelector, label?_workspacePod h, if_neg hUid,
    if_neg hCreated]

end Manifest

end PodWorkspace
