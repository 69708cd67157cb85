import Mathlib
import PodWorkspace.Proofs.Manifest.Merge

/-! Where the content of the mounts lives on the volume claim. A volume with a source keeps it under
that name and any other mount under its position. Both are names in one directory, so that two mounts
share their content when they are volumes with one name, and also when the name of one of them is the
position of the other. -/

namespace PodWorkspace.Manifest

open Cluster

variable {s : Setting} {w : WorkspaceName} {spec : RunSpec} {template : Option Pod} {fresh : Bool}
  {placement : Placement} {pod : Pod}

/-- The name under which a mount keeps its content wherever it stands: the source of a volume, less a
slash in front. -/
def ownName? (m : Mount) : Option String :=
  if m.isVolume && !m.source.isEmpty then some ((Text.stripFront "/" m.source).getD m.source)
  else none

theorem directoryOf_eq (index : Nat) (m : Mount) :
    directoryOf index m = (ownName? m).getD (toString index) := by
  unfold directoryOf ownName?
  split <;> rfl

/-- The mounts whose content lives on the volume claim, with their positions. -/
def keptMounts (workspace : Mount) (mounts : List Mount) : List (Nat × Mount) :=
  (0, workspace) :: (numbered mounts).filter (·.2.isSupported)

theorem volumeMounts_eq_map (workspace : Mount) (mounts : List Mount) :
    volumeMounts workspace mounts = (keptMounts workspace mounts).map fun m => claimMount m.1 m.2 :=
  rfl

/-- Both mounts are volumes with a name, which is the same. -/
def SameName (a b : Mount) : Prop := ∃ name, ownName? a = some name ∧ ownName? b = some name

/-- The name of a mount is the position of another one, which has no name. -/
def NamesPlace (a : Mount) (b : Nat × Mount) : Prop :=
  ownName? a = some (toString b.1) ∧ ownName? b.2 = none

/-- When mounts at different positions share their content. -/
theorem subPath_claimMount_eq_iff {a b : Nat × Mount} (hPlaces : a.1 ≠ b.1) :
    (claimMount a.1 a.2).subPath = (claimMount b.1 b.2).subPath ↔
      SameName a.2 b.2 ∨ NamesPlace a.2 b ∨ NamesPlace b.2 a := by
  have hDirectories : (claimMount a.1 a.2).subPath = (claimMount b.1 b.2).subPath ↔
      directoryOf a.1 a.2 = directoryOf b.1 b.2 := by
    simp [claimMount, String.append_right_inj, toString]
  rw [hDirectories, directoryOf_eq, directoryOf_eq]
  unfold SameName NamesPlace
  cases ownName? a.2 with
  | none =>
    cases ownName? b.2 with
    | none => simp [Nat.repr_inj, hPlaces]
    | some name => simp [eq_comm]
  | some name =>
    cases ownName? b.2 with
    | none => simp
    | some other => simp [eq_comm]

theorem map_fst_numbered (mounts : List Mount) :
    (numbered mounts).map (·.1) = (List.range mounts.length).map (· + 1) :=
  List.map_fst_zip (by simp)

theorem pairwise_numbered (mounts : List Mount) :
    (numbered mounts).Pairwise fun a b => a.1 ≠ b.1 := by
  refine List.pairwise_map.1 ?_
  rw [map_fst_numbered]
  exact List.pairwise_lt_range.map _ fun a b hLess => by omega

theorem pairwise_keptMounts (workspace : Mount) (mounts : List Mount) :
    (keptMounts workspace mounts).Pairwise fun a b => a.1 ≠ b.1 := by
  refine List.pairwise_cons.2 ⟨fun b hMem => ?_, (pairwise_numbered mounts).filter _⟩
  have hPlace : b.1 ∈ (numbered mounts).map (·.1) :=
    List.mem_map_of_mem (List.mem_filter.1 hMem).1
  rw [map_fst_numbered, List.mem_map] at hPlace
  obtain ⟨place, -, hPlace⟩ := hPlace
  show 0 ≠ b.1
  omega

/-- The mounts of the workspace container that are not from the template are those that are kept, in
their order, and two of them share their content when they have one name or one of them has the name
of the other's position. -/
theorem subPath_workspacePod_eq_iff
    (h : (workspacePod s w spec template fresh placement).outcome = .ok pod) :
    ∃ workspace c own, (workspaceMount s spec).outcome = .ok workspace ∧
      Readiness.declaredContainers pod =
        othersThan devContainerName (templateSpec template).containers ++ [c] ∧
      c.volumeMounts.getD [] =
        ((lastNamed? devContainerName (templateSpec template).containers).bind (·.volumeMounts)).getD []
          ++ own ∧
      own.map (·.mountPath) = (keptMounts workspace spec.mounts).map (·.2.target) ∧
      ((keptMounts workspace spec.mounts).zip own).Pairwise fun a b =>
        a.2.subPath = b.2.subPath ↔
          SameName a.1.2 b.1.2 ∨ NamesPlace a.1.2 b.1 ∨ NamesPlace b.1.2 a.1 := by
  obtain ⟨workspace, c, hWorkspace, hContainers, hDev⟩ := isDevContainer_workspacePod h
  refine ⟨workspace, c, _, hWorkspace, hContainers, hDev.volumeMounts, ?_, ?_⟩
  · rw [volumeMounts_eq_map, List.map_map]
    rfl
  · rw [volumeMounts_eq_map, ← List.map_prod_left_eq_zip, List.pairwise_map]
    exact (pairwise_keptMounts workspace spec.mounts).imp subPath_claimMount_eq_iff

theorem subPath_crowdedPod_eq_iff : ∃ pod, crowdedPod.outcome = .ok pod ∧
    ∃ workspace c own, (workspaceMount crowdedSetting crowdedSpec).outcome = .ok workspace ∧
      Readiness.declaredContainers pod =
        othersThan devContainerName (templateSpec (some crowdedTemplate)).containers ++ [c] ∧
      c.volumeMounts.getD [] = [] ++ own ∧
      own.map (·.mountPath) = ["/workspaces/notes", "/dst", "/cache/", "/data"] ∧
      ((keptMounts workspace crowdedSpec.mounts).zip own).Pairwise fun a b =>
        a.2.subPath = b.2.subPath ↔
          SameName a.1.2 b.1.2 ∨ NamesPlace a.1.2 b.1 ∨ NamesPlace b.1.2 a.1 := by
  obtain ⟨pod, hPod⟩ := exists_crowdedPod
  obtain ⟨workspace, c, own, hWorkspace, hContainers, hOwn, hTargets, hPairs⟩ :=
    subPath_workspacePod_eq_iff hPod
  have hMount : (workspaceMount crowdedSetting crowdedSpec).outcome =
    .ok (.volume "notes" "/workspaces/notes") := rfl
  obtain rfl := Except.ok.inj (hMount.symm.trans hWorkspace)
  exact ⟨pod, hPod, _, c, own, hWorkspace, hContainers, hOwn, hTargets, hPairs⟩

/-- A specification with a bind in the first place, and a volume whose name is the number of that. -/
def misnamedSpec : RunSpec where
  uid := "uid-1"
  image := "debian"
  entrypoint := "/bin/sleep"
  workspaceMount := some (.volume "notes" "/workspaces/notes")
  mounts := [{ kind := "bind", source := "/src", target := "/dst" }, .volume "1" "/data"]

/-- The bind and the volume share their content, although only one of them has a name. -/
theorem misnamedPod_shares_subPath :
    ∃ pod, (workspacePod ⟨{}, "team"⟩ ⟨"notes"⟩ misnamedSpec none false {}).outcome = .ok pod ∧
      (∃ c ∈ Readiness.declaredContainers pod, c.name = devContainerName ∧
        c.volumeMounts.map (·.map fun m => (m.mountPath, m.subPath)) =
          some [("/workspaces/notes", some "devpod/notes"), ("/dst", some "devpod/1"),
            ("/data", some "devpod/1")]) ∧
      ¬SameName { kind := "bind", source := "/src", target := "/dst" } (.volume "1" "/data") := by
  refine ⟨_, rfl, ⟨_, List.mem_singleton_self _, rfl, by decide +kernel⟩, ?_⟩
  rintro ⟨name, hBind, -⟩
  cases hBind

end PodWorkspace.Manifest
