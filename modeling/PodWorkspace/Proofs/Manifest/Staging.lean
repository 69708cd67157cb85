import PodWorkspace.Proofs.Manifest.Mounts
import PodWorkspace.Proofs.Manifest.SeedContainer

/-! Where the init container stages the volumes of a new workspace. The path of a volume comes from
where its content lives on the volume claim and not from its target, so two volumes are staged at one
path when they share their content, whatever their targets are. -/

namespace PodWorkspace.Manifest

open Cluster

variable {s : Setting} {w : WorkspaceName} {spec : RunSpec} {fresh : Bool} {placement : Placement}
  {pod : Pod} {seed : Container}

/-- The volumes among the mounts of a specification, with their positions. -/
def numberedVolumes (spec : RunSpec) : List (Nat × Mount) :=
  (numbered spec.mounts).filter (·.2.isVolume)

/-- Whether two mounts with their positions share their content: they are volumes with one name, or the
name of one of them is the position of the other, which has none. -/
def SharesContent (a b : Nat × Mount) : Prop :=
  SameName a.2 b.2 ∨ NamesPlace a.2 b ∨ NamesPlace b.2 a

theorem seededMounts_eq_map (spec : RunSpec) :
    seededMounts spec = (numberedVolumes spec).map fun m => claimMount m.1 m.2 := rfl

theorem mountPath_staged_claimMount (index : Nat) (m : Mount) :
    (staged (claimMount index m)).mountPath = "/devpod/" ++ directoryOf index m := by
  simp [staged, claimMount, ← String.append_assoc, toString]

/-- When mounts at different positions are staged at one path. -/
theorem mountPath_staged_eq_iff {a b : Nat × Mount} (hPlaces : a.1 ≠ b.1) :
    (staged (claimMount a.1 a.2)).mountPath = (staged (claimMount b.1 b.2)).mountPath ↔
      SharesContent a b := by
  have hSubPath := subPath_claimMount_eq_iff hPlaces
  rw [SharesContent, ← hSubPath, mountPath_staged_claimMount, mountPath_staged_claimMount,
    String.append_right_inj]
  simp [claimMount, String.append_right_inj, toString]

/-- Without a template, the paths at which the init container mounts are different exactly when no two
volumes share their content. -/
theorem nodup_stagedPaths_iff
    (h : (workspacePod s w spec none true placement).outcome = .ok pod)
    (hMem : seed ∈ Readiness.declaredInits pod) (hName : seed.name = initContainerName) :
    ((seed.volumeMounts.getD []).map (·.mountPath)).Nodup ↔
      (numberedVolumes spec).Pairwise fun a b => ¬SharesContent a b := by
  have hMounts : seed.volumeMounts.getD [] =
      (numberedVolumes spec).map fun m => staged (claimMount m.1 m.2) := by
    rw [(seedsVolumes_of_mem h hMem hName).volumeMounts, seededMounts_eq_map, List.map_map]
    rfl
  have hPaths : (numberedVolumes spec).Pairwise fun a b =>
      (staged (claimMount a.1 a.2)).mountPath = (staged (claimMount b.1 b.2)).mountPath ↔
        SharesContent a b :=
    ((pairwise_numbered spec.mounts).filter _).imp mountPath_staged_eq_iff
  rw [hMounts, List.map_map, List.Nodup, List.pairwise_map]
  constructor
  · intro hDistinct
    exact (hPaths.and hDistinct).imp fun hBoth hShared => hBoth.2 (hBoth.1.2 hShared)
  · intro hApart
    exact (hPaths.and hApart).imp fun hBoth hSame => hBoth.2 (hBoth.1.1 hSame)

theorem exists_crowdedSeed : ∃ pod seed,
    (workspacePod ⟨{}, "team"⟩ ⟨"notes"⟩ crowdedSpec none true {}).outcome = .ok pod ∧
      seed ∈ Readiness.declaredInits pod ∧ seed.name = initContainerName ∧
      (seed.volumeMounts.getD []).map (·.mountPath) = ["/devpod/cache", "/devpod/4"] :=
  ⟨_, _, rfl, List.mem_singleton_self _, rfl, by decide +kernel⟩

theorem nodup_stagedPaths_of_crowdedSpec : ∃ pod seed,
    (workspacePod ⟨{}, "team"⟩ ⟨"notes"⟩ crowdedSpec none true {}).outcome = .ok pod ∧
      seed ∈ Readiness.declaredInits pod ∧ seed.name = initContainerName ∧
      (seed.volumeMounts.getD []).map (·.mountPath) = ["/devpod/cache", "/devpod/4"] ∧
      (numberedVolumes crowdedSpec).Pairwise fun a b => ¬SharesContent a b := by
  obtain ⟨pod, seed, hPod, hMem, hName, hPaths⟩ := exists_crowdedSeed
  have hDistinct := nodup_stagedPaths_iff hPod hMem hName
  rw [hPaths] at hDistinct
  exact ⟨pod, seed, hPod, hMem, hName, hPaths, hDistinct.1 (by decide)⟩

/-- A specification that mounts one volume in two places. -/
def sharingSpec : RunSpec :=
  { plainSpec with mounts := [.volume "cache" "/a", .volume "cache" "/b"] }

/-- The init container mounts twice at one path, although the targets are different. -/
theorem sharingPod_stages_twice :
    (sharingSpec.mounts.map (·.target)).Nodup ∧ (∀ m ∈ sharingSpec.mounts, m.target ≠ "") ∧
      ∃ pod, (workspacePod ⟨{}, "team"⟩ ⟨"notes"⟩ sharingSpec none true {}).outcome = .ok pod ∧
        ∃ seed ∈ Readiness.declaredInits pod, seed.name = initContainerName ∧
          (seed.volumeMounts.getD []).map (·.mountPath) = ["/devpod/cache", "/devpod/cache"] := by
  refine ⟨by decide, by decide, _, rfl, _, List.mem_singleton_self _, rfl, by decide +kernel⟩

end PodWorkspace.Manifest
