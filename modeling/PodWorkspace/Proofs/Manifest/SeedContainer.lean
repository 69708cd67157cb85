import Mathlib.Data.List.Forall2
import PodWorkspace.Proofs.Manifest.Merge
import PodWorkspace.Proofs.Text.Blank

/-! What the init container seeds. It mounts the volumes of a specification as the workspace container
does, in the same order and with the same content, and copies to each what the image has where the
workspace container mounts it. -/

namespace PodWorkspace.Manifest

open Cluster

variable {s : Setting} {w : WorkspaceName} {spec : RunSpec} {template : Option Pod} {fresh : Bool}
  {placement : Placement} {pod : Pod}

/-! ### Paths without the slashes at their end -/

/-- What is left of a path when the slashes at its end are taken away. -/
structure IsTrimmed (path core : String) : Prop where
  slashes : ∃ n, path.toList = core.toList ++ List.replicate n '/'
  bare : core.toList.getLast? ≠ some '/'

theorem isTrimmed_withoutEndSlashes (path : String) : IsTrimmed path (withoutEndSlashes path) := by
  have hCore : (withoutEndSlashes path).toList = Text.dropEndWhile (· == '/') path.toList :=
    String.toList_ofList
  constructor
  · have hSlashes : ∀ c ∈ path.toList.rtakeWhile (· == '/'), c = '/' := fun c hMem => by
      simpa using List.mem_rtakeWhile_imp hMem
    refine ⟨(path.toList.rtakeWhile (· == '/')).length, ?_⟩
    rw [hCore, ← List.eq_replicate_of_mem hSlashes]
    exact List.rdropWhile_append_rtakeWhile.symm
  · rw [hCore]
    obtain hNone | ⟨front, last, hLast, hOther⟩ :=
      Text.dropEndWhile_eq_nil_or (· == '/') path.toList
    · simp [hNone]
    · have hNe : last ≠ '/' := by simpa using hOther
      simpa [hLast] using hNe

theorem isTrimmed_iff {path core : String} :
    IsTrimmed path core ↔ core = withoutEndSlashes path := by
  constructor
  · rintro ⟨⟨n, hPath⟩, hBare⟩
    have hSlashes : ∀ c ∈ List.replicate n '/', (c == '/') = true := fun c hMem => by
      simp [List.eq_of_mem_replicate hMem]
    have hCore : Text.dropEndWhile (· == '/') core.toList = core.toList := by
      refine List.rdropWhile_eq_self_iff.2 fun hSome hSlash => hBare ?_
      rw [List.getLast?_eq_some_getLast hSome, eq_of_beq hSlash]
    rw [withoutEndSlashes, hPath, Text.dropEndWhile_append_of_all hSlashes, hCore, String.ofList_toList]
  · rintro rfl
    exact isTrimmed_withoutEndSlashes path

/-! ### The volumes and their copies -/

/-- The mounts of the volumes among some entries, where `own` are the mounts of all entries that can
be mounted, in their order. -/
def volumesAmong (entries : List Mount) (own : List VolumeMount) : List VolumeMount :=
  (((entries.filter Mount.isSupported).zip own).filter (·.1.isVolume)).map (·.2)

/-- A mount whose path is that of its content on the volume claim, under the root. -/
def staged (m : VolumeMount) : VolumeMount := { m with mountPath := "/" ++ m.subPath.getD "" }

/-- Whether a line of a script copies what is at the path of a mount to where it is staged. -/
def Copies (m : VolumeMount) (line : String) : Prop :=
  ∃ source destination, IsTrimmed m.mountPath source ∧ IsTrimmed (staged m).mountPath destination ∧
    line = "cp -a " ++ source ++ "/. " ++ destination ++ "/ || true\n"

/-- The mounts of the entries of a specification in the workspace container. -/
def entryMounts (entries : List Mount) : List VolumeMount :=
  ((numbered entries).filter (·.2.isSupported)).map fun m => claimMount m.1 m.2

theorem isSupported_of_isVolume {m : Mount} (h : m.isVolume = true) : m.isSupported = true := by
  simp only [Mount.isVolume, Mount.isSupported] at h ⊢
  simp [h]

/-- Numbers do not matter for which mounts there are. -/
theorem filter_eq_numbered (p : Mount → Bool) (entries : List Mount) :
    entries.filter p = ((numbered entries).filter fun m => p m.2).map (·.2) := by
  conv => lhs; rw [← map_snd_numbered entries, List.filter_map]
  rfl

/-- The two ways to number the mounts give each volume the same content. -/
theorem volumesAmong_entryMounts (spec : RunSpec) :
    volumesAmong spec.mounts (entryMounts spec.mounts) = seededMounts spec := by
  unfold volumesAmong entryMounts seededMounts
  rw [filter_eq_numbered, List.zip_map', List.filter_map, List.map_map, List.filter_filter]
  have hVolumes (m : Nat × Mount) : (m.2.isVolume && m.2.isSupported) = m.2.isVolume := by
    cases hVolume : m.2.isVolume with
    | true => simp [isSupported_of_isVolume hVolume]
    | false => rfl
  simp [Function.comp_def, hVolumes]

def copyLine (m : VolumeMount) : String := seedCommand m ++ "\n"

theorem copies_iff {m : VolumeMount} {line : String} : Copies m line ↔ line = copyLine m := by
  have hLine : copyLine m = "cp -a " ++ withoutEndSlashes m.mountPath ++ "/. " ++
      withoutEndSlashes (staged m).mountPath ++ "/ || true\n" := by
    simp [copyLine, seedCommand, staged, stagingPath, String.append_assoc, toString]
  rw [hLine]
  constructor
  · rintro ⟨source, destination, hSource, hDestination, rfl⟩
    rw [isTrimmed_iff.1 hSource, isTrimmed_iff.1 hDestination]
  · rintro rfl
    exact ⟨_, _, isTrimmed_withoutEndSlashes _, isTrimmed_withoutEndSlashes _, rfl⟩

theorem forall₂_copies_iff {volumes : List VolumeMount} {lines : List String} :
    List.Forall₂ Copies volumes lines ↔ lines = volumes.map copyLine := by
  constructor
  · intro h
    induction h with
    | nil => rfl
    | cons hLine _ ih => rw [copies_iff.1 hLine, ih, List.map_cons]
  · rintro rfl
    rw [List.forall₂_map_right_iff, List.forall₂_same]
    exact fun m _ => copies_iff.2 rfl

theorem join_copyLine (m : VolumeMount) (rest : List VolumeMount) :
    Text.join "\n" ((m :: rest).map seedCommand) ++ "\n" =
      ((m :: rest).map copyLine).foldr (· ++ ·) "" := by
  induction rest generalizing m with
  | nil => simp [Text.join, copyLine]
  | cons next rest ih =>
    have hJoin : Text.join "\n" ((m :: next :: rest).map seedCommand) =
      seedCommand m ++ "\n" ++ Text.join "\n" ((next :: rest).map seedCommand) := rfl
    have hLines : ((m :: next :: rest).map copyLine).foldr (· ++ ·) "" =
      copyLine m ++ ((next :: rest).map copyLine).foldr (· ++ ·) "" := rfl
    rw [hJoin, hLines, String.append_assoc, ih next, copyLine]

/-- The init container that seeds volumes, merged with the one that a template declares, if it does. The
volumes are given as the workspace container mounts them. -/
structure SeedsVolumes (declared? : Option Container) (volumes : List VolumeMount)
    (seed : Container) : Prop where
  name : seed.name = initContainerName
  volumeMounts : seed.volumeMounts.getD [] =
    (declared?.bind (·.volumeMounts)).getD [] ++ volumes.map staged
  command : seed.command = some ["sh"]
  args : ∃ lines, List.Forall₂ Copies volumes lines ∧
    seed.args = some ["-c", lines.foldr (· ++ ·) ""]

theorem seedsVolumes_mergeDeclared (resources : Option Resources) (declared : List Container)
    {volumes : List VolumeMount} (hVolumes : volumes ≠ []) :
    SeedsVolumes (lastNamed? initContainerName declared) volumes
      (mergeDeclared (seedContainer s spec resources volumes) declared) := by
  have hFolds := folds_mergeDeclared (seedContainer s spec resources volumes) declared
  rw [name_seedContainer] at hFolds
  exact {
    name := name_mergeDeclared _ _
    volumeMounts := hFolds.volumeMounts
    command := by rw [hFolds.rest]; rfl
    args := by
      obtain ⟨m, rest, rfl⟩ := List.exists_cons_of_ne_nil hVolumes
      refine ⟨_, forall₂_copies_iff.2 rfl, ?_⟩
      rw [hFolds.rest, ← join_copyLine]
      rfl }

/-- A container in a pod that has the name of the one that seeds volumes is that one. -/
theorem seedsVolumes_of_mem
    (h : (workspacePod s w spec template fresh placement).outcome = .ok pod) {seed : Container}
    (hMem : seed ∈ Readiness.declaredInits pod) (hName : seed.name = initContainerName) :
    SeedsVolumes (lastNamed? initContainerName (templateInits template)) (seededMounts spec) seed := by
  have hInits := declaredInits_workspacePod h
  cases hSeeding : !fresh || (seededMounts spec).isEmpty with
  | true =>
    have hOthers := Except.ok.inj ((initContainers_of_not_seeding hSeeding).symm.trans hInits)
    exact absurd hName (not_mem_othersThan (hOthers ▸ hMem))
  | false =>
    obtain ⟨resources, hSeed⟩ := initContainers_of_seeding hSeeding hInits
    obtain hOther | hLast := List.mem_append.1 (hSeed ▸ hMem)
    · exact absurd hName (not_mem_othersThan hOther)
    · rw [List.mem_singleton.1 hLast]
      refine seedsVolumes_mergeDeclared resources _ fun hNone => ?_
      simp [hNone] at hSeeding

/-- In the pod of a new workspace the volumes among the mounts of the specification are seeded in their
order, with the content that the workspace container has for them, and nothing else is. -/
theorem seeds_mounted_volumes
    (h : (workspacePod s w spec template true placement).outcome = .ok pod) :
    ∃ last? dev workspace own,
      LastNamed devContainerName (templateSpec template).containers last? ∧
      Readiness.declaredContainers pod =
        (templateSpec template).containers.filter (·.name != devContainerName) ++ [dev] ∧
      dev.name = devContainerName ∧
      dev.volumeMounts.getD [] = (last?.bind (·.volumeMounts)).getD [] ++ workspace :: own ∧
      own.map (·.mountPath) = (spec.mounts.filter Mount.isSupported).map (·.target) ∧
      (volumesAmong spec.mounts own).map (·.mountPath) =
        (spec.mounts.filter Mount.isVolume).map (·.target) ∧
      if spec.mounts.any Mount.isVolume then
        ∃ last? seed, LastNamed initContainerName (templateInits template) last? ∧
          Readiness.declaredInits pod =
            (templateInits template).filter (·.name != initContainerName) ++ [seed] ∧
          SeedsVolumes last? (volumesAmong spec.mounts own) seed
      else Readiness.declaredInits pod =
        (templateInits template).filter (·.name != initContainerName) := by
  obtain ⟨workspace, dev, -, hContainers, hDev⟩ := isDevContainer_workspacePod h
  have hInits := declaredInits_workspacePod h
  refine ⟨_, dev, claimMount 0 workspace, entryMounts spec.mounts, lastNamed_iff.2 rfl, hContainers,
    hDev.name, hDev.volumeMounts, ?_, ?_, ?_⟩
  · rw [entryMounts, filter_eq_numbered, List.map_map, List.map_map]
    rfl
  · rw [volumesAmong_entryMounts, seededMounts, filter_eq_numbered, List.map_map, List.map_map]
    rfl
  · rw [volumesAmong_entryMounts]
    have hSeeding : (!true || (seededMounts spec).isEmpty) = !spec.mounts.any Mount.isVolume := by
      simp [isEmpty_seededMounts]
    cases hVolumes : spec.mounts.any Mount.isVolume with
    | true =>
      rw [hVolumes] at hSeeding
      obtain ⟨resources, hSeed⟩ := initContainers_of_seeding hSeeding hInits
      refine ⟨_, _, lastNamed_iff.2 rfl, hSeed, seedsVolumes_mergeDeclared resources _ fun hNone => ?_⟩
      simp [hNone] at hSeeding
    | false =>
      rw [hVolumes] at hSeeding
      exact (Except.ok.inj ((initContainers_of_not_seeding hSeeding).symm.trans hInits)).symm

theorem seeds_mounted_volumes_of_crowdedPod : ∃ pod, crowdedPod.outcome = .ok pod ∧
    ∃ dev workspace own,
      Readiness.declaredContainers pod = [{ name := "proxy" }, dev] ∧ dev.name = devContainerName ∧
      dev.volumeMounts.getD [] = workspace :: own ∧
      own.map (·.mountPath) = ["/dst", "/cache/", "/data"] ∧
      (volumesAmong crowdedSpec.mounts own).map (·.mountPath) = ["/cache/", "/data"] ∧
      ∃ seed, Readiness.declaredInits pod = [{ name := "setup" }, seed] ∧
        SeedsVolumes (some { name := initContainerName }) (volumesAmong crowdedSpec.mounts own) seed ∧
        IsTrimmed "/cache/" "/cache" ∧ ¬IsTrimmed "/cache/" "/cache/" := by
  obtain ⟨pod, hPod⟩ := exists_crowdedPod
  obtain ⟨last?, dev, workspace, own, hLast, hContainers, hName, hMounts, hTargets, hVolumes, hInits⟩ :=
    seeds_mounted_volumes hPod
  obtain rfl := lastNamed_iff.1 hLast
  have hSeeding : crowdedSpec.mounts.any Mount.isVolume = true := by decide
  rw [if_pos hSeeding] at hInits
  obtain ⟨seedLast?, seed, hSeedLast, hSeed, hSeeds⟩ := hInits
  obtain rfl := lastNamed_iff.1 hSeedLast
  exact ⟨pod, hPod, dev, workspace, own, hContainers, hName, hMounts, hTargets, hVolumes, seed, hSeed,
    hSeeds, isTrimmed_iff.2 (by decide +kernel), mt isTrimmed_iff.1 (by decide +kernel)⟩

end PodWorkspace.Manifest
