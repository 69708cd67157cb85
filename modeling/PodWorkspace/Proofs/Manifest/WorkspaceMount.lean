import PodWorkspace.Manifest.Mounts
import PodWorkspace.Proofs.Text.Path

/-! Where the workspace is mounted. The path that the user sets takes the place of the target of the mount
when it is that target or a directory above it, and else says nothing. What is mounted and where its content
lives on the volume claim stay as they are. -/

namespace PodWorkspace.Manifest

variable {s : Setting} {spec : RunSpec} {mount : Mount} {path target : String} {f : Failure}

/-- The target of the workspace mount when the specification says `target`. -/
def targetIn (s : Setting) (target : String) : String :=
  match s.options.workspaceVolumeMount with
  | none => target
  | some path => if Text.isWithin target path then path else target

/-- There is no workspace mount in a specification, or it has no target. -/
def LacksMount (spec : RunSpec) : Prop :=
  spec.workspaceMount = none ∨ ∃ mount, spec.workspaceMount = some mount ∧ mount.target = ""

theorem workspaceMount_of_lacks (h : LacksMount spec) : (workspaceMount s spec).outcome =
    .error (.configuration "DEVCONTAINER_RUN_OPTIONS" "workspace mount target is empty") := by
  have hNone : spec.workspaceMount.filter (·.target != "") = none := by
    rcases h with hMissing | ⟨mount, hMount, hTarget⟩
    · rw [hMissing, Option.filter_none]
    · simp [hMount, hTarget]
  rw [workspaceMount, hNone]
  rfl

theorem workspaceMount_of_some (hMount : spec.workspaceMount = some mount) (hTarget : mount.target ≠ "") :
    (workspaceMount s spec).outcome = .ok { mount with target := targetIn s mount.target } := by
  have hSome : spec.workspaceMount.filter (·.target != "") = some mount := by
    simp [hMount, hTarget]
  rw [workspaceMount, hSome]
  dsimp only
  cases hPath : s.options.workspaceVolumeMount with
  | none => simp [targetIn, hPath]
  | some path =>
    by_cases hWithin : Text.isWithin mount.target path = true
    · simp only [targetIn, hPath, hWithin, if_true]
      rfl
    · simp only [targetIn, hPath, if_neg hWithin]
      rfl

theorem exists_mount_of_not_lacks (h : ¬LacksMount spec) :
    ∃ mount, spec.workspaceMount = some mount ∧ mount.target ≠ "" := by
  cases hMount : spec.workspaceMount with
  | none => exact absurd (.inl hMount) h
  | some mount => exact ⟨mount, rfl, fun hEmpty => h (.inr ⟨mount, hMount, hEmpty⟩)⟩

theorem workspaceMount_eq_error_iff : (workspaceMount s spec).outcome = .error f ↔ LacksMount spec ∧
    f = .configuration "DEVCONTAINER_RUN_OPTIONS" "workspace mount target is empty" := by
  by_cases hLacks : LacksMount spec
  · rw [workspaceMount_of_lacks hLacks, Except.error.injEq, and_iff_right hLacks, eq_comm]
  · obtain ⟨mount, hMount, hTarget⟩ := exists_mount_of_not_lacks hLacks
    simp [workspaceMount_of_some hMount hTarget, hLacks]

theorem targetIn_of_isAbove (hPath : s.options.workspaceVolumeMount = some path)
    (h : Text.IsAbove path target) : targetIn s target = path := by
  simp [targetIn, hPath, Text.isWithin_iff.2 h]

theorem targetIn_of_not_isAbove (hPath : s.options.workspaceVolumeMount = some path)
    (h : ¬Text.IsAbove path target) : targetIn s target = target := by
  rw [← Text.isWithin_iff] at h
  simp [targetIn, hPath, h]

/-- The directory of a mount does not depend on where it is mounted. -/
theorem subPath_claimMount_withTarget (place : Nat) (mount : Mount) (target : String) :
    (claimMount place { mount with target }).subPath = (claimMount place mount).subPath := rfl

/-- The target of the workspace mount is replaced by a path above it and by no other one, the rest of the
mount and the directory of its content are kept, and only a specification without such a mount or without
its target is refused. -/
theorem workspaceMount_retargets (s : Setting) (spec : RunSpec) :
    (∀ f, (workspaceMount s spec).outcome = .error f ↔ LacksMount spec ∧
      f = .configuration "DEVCONTAINER_RUN_OPTIONS" "workspace mount target is empty") ∧
    ∀ mount, spec.workspaceMount = some mount → mount.target ≠ "" →
      ∃ mounted, (workspaceMount s spec).outcome = .ok mounted ∧
        mounted.kind = mount.kind ∧ mounted.source = mount.source ∧ mounted.other = mount.other ∧
        (∀ place, (claimMount place mounted).subPath = (claimMount place mount).subPath) ∧
        (s.options.workspaceVolumeMount = none → mounted.target = mount.target) ∧
        ∀ path, s.options.workspaceVolumeMount = some path →
          (Text.IsAbove path mount.target → mounted.target = path) ∧
          (¬Text.IsAbove path mount.target → mounted.target = mount.target) := by
  refine ⟨fun f => workspaceMount_eq_error_iff, fun mount hMount hTarget => ?_⟩
  refine ⟨_, workspaceMount_of_some hMount hTarget, rfl, rfl, rfl, ?_, ?_, fun path hPath => ⟨?_, ?_⟩⟩
  · exact fun place => subPath_claimMount_withTarget place mount _
  · intro hNone
    simp [targetIn, hNone]
  · exact targetIn_of_isAbove hPath
  · exact targetIn_of_not_isAbove hPath

/-- A specification with a workspace mount, and the setting with a path for it. -/
def notesSpec : RunSpec where
  workspaceMount := some { kind := "volume", source := "notes", target := "/workspaces//notes/" }

def mountedSetting (path : String) : Setting := ⟨{ workspaceVolumeMount := some path }, "team"⟩

/-- A parent counts however it is written, and the front of a name is no parent. -/
theorem workspaceMount_retargets_of_notes :
    (∃ mounted, (workspaceMount (mountedSetting "/./workspaces/") notesSpec).outcome = .ok mounted ∧
      mounted.source = "notes" ∧ mounted.target = "/./workspaces/") ∧
    ∃ mounted, (workspaceMount (mountedSetting "/work") notesSpec).outcome = .ok mounted ∧
      mounted.source = "notes" ∧ mounted.target = "/workspaces//notes/" := by
  constructor
  · obtain ⟨mounted, hOutcome, -, hSource, -, -, -, hTarget⟩ :=
      (workspaceMount_retargets (mountedSetting "/./workspaces/") notesSpec).2 _ rfl (by decide)
    exact ⟨mounted, hOutcome, hSource, (hTarget _ rfl).1 (by decide)⟩
  · obtain ⟨mounted, hOutcome, -, hSource, -, -, -, hTarget⟩ :=
      (workspaceMount_retargets (mountedSetting "/work") notesSpec).2 _ rfl (by decide)
    exact ⟨mounted, hOutcome, hSource, (hTarget _ rfl).2 (by decide)⟩

end PodWorkspace.Manifest
