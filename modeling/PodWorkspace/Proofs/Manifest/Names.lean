import PodWorkspace.Proofs.Manifest.Merge

/-! What the names in a template decide. Of the containers under the name of the workspace container
the last one is merged, but the resources are those of the first one. Containers under a name of the
provider's give way to the one that is built, so their names stay different. A volume under the name of
the provider's stays beside it. -/

namespace PodWorkspace.Manifest

open Cluster

variable {s : Setting} {w : WorkspaceName} {spec : RunSpec} {template : Option Pod} {fresh : Bool}
  {placement : Placement} {pod : Pod} {name : String} {containers : List Container} {c : Container}

/-! ### Several containers under one name -/

theorem exists_isFirstNamed (h : ∃ c ∈ containers, c.name = name) :
    ∃ c, IsFirstNamed name containers c := by
  obtain ⟨c, hMem, hName⟩ := h
  have hFound : (containers.find? (·.name == name)).isSome = true :=
    List.find?_isSome.2 ⟨c, hMem, by simpa using hName⟩
  obtain ⟨first, hFirst⟩ := Option.isSome_iff_exists.1 hFound
  exact ⟨first, find?_name_eq_some_iff.1 hFirst⟩

theorem exists_isLastNamed (h : ∃ c ∈ containers, c.name = name) :
    ∃ c, IsLastNamed name containers c := by
  have hReversed : ∃ c ∈ containers.reverse, c.name = name := by simpa using h
  obtain ⟨c, hLast⟩ := exists_isFirstNamed hReversed
  exact ⟨c, isFirstNamed_reverse.1 hLast⟩

/-! ### Resources -/

theorem resources_mergeDeclared (built : Container) (declared : List Container) :
    (mergeDeclared built declared).resources = built.resources := by
  rw [(folds_mergeDeclared built declared).rest]

/-- Resources that neither the options nor the specification give are those of the first workspace
container of the template. -/
theorem containerResources_of_isFirstNamed (hOption : s.options.resources = none)
    (hSpec : spec.resources.all Text.isAllBlank = true)
    (hFirst : IsFirstNamed devContainerName containers c) :
    containerResources s spec containers = .ok (c.resources.getD {}) := by
  have hBlank : spec.resources.filter (fun raw => !Text.isAllBlank raw) = none := by
    cases hRaw : spec.resources with
    | none => rfl
    | some raw =>
      rw [hRaw, Option.all_some] at hSpec
      simp [Option.filter, hSpec]
  rw [containerResources, hOption]
  simp only [hBlank, find?_name_eq_some_iff.2 hFirst, Option.some_or, Option.bind_some]

/-- Of the workspace containers in a template the last one is merged into the one that is built, and
that has the resources of the last one exactly when the first one has the same. -/
theorem resources_eq_last_iff
    (h : (workspacePod s w spec template fresh placement).outcome = .ok pod)
    (hOption : s.options.resources = none) (hSpec : spec.resources.all Text.isAllBlank = true)
    (hDeclared : ∃ c ∈ (templateSpec template).containers, c.name = devContainerName) :
    ∃ first last dev,
      IsFirstNamed devContainerName (templateSpec template).containers first ∧
      IsLastNamed devContainerName (templateSpec template).containers last ∧
      Readiness.declaredContainers pod =
        othersThan devContainerName (templateSpec template).containers ++ [dev] ∧
      dev.env.getD [] = last.env.getD [] ++
        (spec.env.entries.map fun e => { name := e.1, value := some e.2 }) ∧
      dev.ports = last.ports ∧ dev.envFrom = last.envFrom ∧
      dev.imagePullPolicy = last.imagePullPolicy ∧
      (dev.resources = some (last.resources.getD {}) ↔
        first.resources.getD {} = last.resources.getD {}) := by
  obtain ⟨first, hFirst⟩ := exists_isFirstNamed hDeclared
  obtain ⟨last, hLast⟩ := exists_isLastNamed hDeclared
  obtain ⟨bare, hBare, rfl⟩ := workspacePod_ok.1 h
  obtain ⟨i, hSuit, rfl⟩ := unplacedPod_eq_ok_iff.1 hBare
  have hMerged : lastNamed? devContainerName (templateSpec template).containers = some last :=
    lastNamed?_eq_some_iff.2 hLast
  have hDev : IsDevContainer s spec i.workspace (some last) (i.container s spec template) :=
    hMerged ▸ isDevContainer_mergeDeclared _ _ _
  have hResources : (i.container s spec template).resources = some (first.resources.getD {}) := by
    have hGiven := hSuit.resources
    rw [containerResources_of_isFirstNamed hOption hSpec hFirst, Except.ok.injEq] at hGiven
    rw [Ingredients.container, resources_mergeDeclared, hGiven]
    rfl
  refine ⟨first, last, i.container s spec template, hFirst, hLast, rfl, ?_, ?_, ?_, ?_, ?_⟩
  · exact hDev.env
  · exact hDev.ports
  · exact hDev.envFrom
  · exact hDev.imagePullPolicy
  · rw [hResources, Option.some.injEq]

theorem resources_eq_last_of_crowdedPod : ∃ pod, crowdedPod.outcome = .ok pod ∧
    crowdedSetting.options.resources = none ∧ crowdedSpec.resources.all Text.isAllBlank = true ∧
    (∃ c ∈ (templateSpec (some crowdedTemplate)).containers, c.name = devContainerName) ∧
    ∃ first last dev,
      IsFirstNamed devContainerName (templateSpec (some crowdedTemplate)).containers first ∧
      IsLastNamed devContainerName (templateSpec (some crowdedTemplate)).containers last ∧
      Readiness.declaredContainers pod = [{ name := "proxy" }, dev] ∧
      dev.env.getD [] = last.env.getD [] ++ [{ name := "STAGE", value := some "dev" }] ∧
      dev.ports = last.ports ∧ dev.envFrom = last.envFrom ∧
      dev.imagePullPolicy = last.imagePullPolicy ∧
      (dev.resources = some (last.resources.getD {}) ↔
        first.resources.getD {} = last.resources.getD {}) := by
  obtain ⟨pod, hPod⟩ := exists_crowdedPod
  have hDeclared : ∃ c ∈ (templateSpec (some crowdedTemplate)).containers,
      c.name = devContainerName := ⟨_, List.mem_cons_self, rfl⟩
  exact ⟨pod, hPod, rfl, rfl, hDeclared, resources_eq_last_iff hPod rfl rfl hDeclared⟩

/-- A template with two workspace containers. -/
def repeatingTemplate : Pod where
  spec := some {
    containers := [
      { name := devContainerName, resources := some { requests := some (.single "cpu" "1") } },
      { name := devContainerName, imagePullPolicy := some "Always"
        resources := some { requests := some (.single "cpu" "2") } }] }

/-- The container that is built has the pull policy of the second one, and the resources of the first
one. -/
theorem repeatingPod_mixes_declarations : ∃ pod dev,
    (workspacePod ⟨{}, "team"⟩ ⟨"notes"⟩ plainSpec (some repeatingTemplate) false {}).outcome =
      .ok pod ∧
    Readiness.declaredContainers pod = [dev] ∧ dev.imagePullPolicy = some "Always" ∧
    dev.resources = some { requests := some (.single "cpu" "1") } :=
  ⟨_, _, rfl, rfl, rfl, rfl⟩

/-! ### Distinct names -/

/-- The names in the pod of a workspace, where `podSpec` is its specification. -/
structure MergesNames (spec : RunSpec) (template : Option Pod) (fresh : Bool) (podSpec : PodSpec) :
    Prop where
  containers : podSpec.containers.map (·.name) =
    (othersThan devContainerName (templateSpec template).containers).map (·.name) ++
      [devContainerName]
  inits : (podSpec.initContainers.getD []).map (·.name) =
    (othersThan initContainerName (templateInits template)).map (·.name) ++
      if fresh && spec.mounts.any Mount.isVolume then [initContainerName] else []
  volumes : (podSpec.volumes.getD []).map (·.name) =
    claimVolumeName :: ((templateSpec template).volumes.getD []).map (·.name)

theorem mergesNames_workspacePod
    (h : (workspacePod s w spec template fresh placement).outcome = .ok pod) :
    ∃ podSpec, pod.spec = some podSpec ∧ MergesNames spec template fresh podSpec := by
  obtain ⟨bare, hBare, rfl⟩ := workspacePod_ok.1 h
  obtain ⟨i, hSuit, rfl⟩ := unplacedPod_eq_ok_iff.1 hBare
  obtain ⟨seeds, hSeeds, hNames⟩ := initContainers_eq hSuit.inits
  refine ⟨_, rfl, ?_, ?_, rfl⟩
  · simp [placed, name_container]
  · simp [placed, hSeeds, hNames]

/-- Names are still different when the containers under one name give way to one under that name. -/
theorem nodup_names_append (h : ((othersThan name containers).map (·.name)).Nodup) :
    ((othersThan name containers).map (·.name) ++ [name]).Nodup := by
  refine List.nodup_append.2 ⟨h, by simp, fun a hMem b hName => ?_⟩
  obtain ⟨c, hOther, rfl⟩ := List.mem_map.1 hMem
  rw [List.mem_singleton.1 hName]
  exact not_mem_othersThan hOther

/-- The names of the containers of a pod and those of its init containers are different when they are so
in the template but for the provider's own, and the names of its volumes exactly when no volume of the
template has the name of the provider's. -/
theorem nodup_names_iff
    (h : (workspacePod s w spec template fresh placement).outcome = .ok pod)
    (hContainers : (((templateSpec template).containers.filter
      (·.name != devContainerName)).map (·.name)).Nodup)
    (hInits : ((((templateSpec template).initContainers.getD []).filter
      (·.name != initContainerName)).map (·.name)).Nodup)
    (hVolumes : (((templateSpec template).volumes.getD []).map (·.name)).Nodup) :
    ∃ podSpec, pod.spec = some podSpec ∧
      (podSpec.containers.map (·.name)).Nodup ∧
      ((podSpec.initContainers.getD []).map (·.name)).Nodup ∧
      (((podSpec.volumes.getD []).map (·.name)).Nodup ↔
        ∀ v ∈ (templateSpec template).volumes.getD [], v.name ≠ claimVolumeName) := by
  obtain ⟨podSpec, hSpec, hNames⟩ := mergesNames_workspacePod h
  refine ⟨podSpec, hSpec, ?_, ?_, ?_⟩
  · rw [hNames.containers]
    exact nodup_names_append hContainers
  · rw [hNames.inits]
    split
    · exact nodup_names_append hInits
    · rw [List.append_nil]
      exact hInits
  · rw [hNames.volumes, List.nodup_cons, and_iff_left hVolumes, List.mem_map]
    exact ⟨fun hNone v hMem hName => hNone ⟨v, hMem, hName⟩,
      fun hOther ⟨v, hMem, hName⟩ => hOther v hMem hName⟩

theorem nodup_names_of_crowdedPod : ∃ pod podSpec, crowdedPod.outcome = .ok pod ∧
    pod.spec = some podSpec ∧ (podSpec.containers.map (·.name)).Nodup ∧
    ((podSpec.initContainers.getD []).map (·.name)).Nodup ∧
    ((podSpec.volumes.getD []).map (·.name)).Nodup := by
  obtain ⟨pod, hPod⟩ := exists_crowdedPod
  obtain ⟨podSpec, hSpec, hContainers, hInits, hVolumes⟩ :=
    nodup_names_iff hPod (by decide) (by decide) (by decide)
  exact ⟨pod, podSpec, hPod, hSpec, hContainers, hInits, hVolumes.2 (by decide)⟩

/-- A template with a volume under the name of the provider's. -/
def clashingTemplate : Pod where
  spec := some { volumes := some [{ name := claimVolumeName, carried := [("emptyDir", .ofMembers [])] }] }

/-- The pod has two volumes under one name, although the template has one volume only. -/
theorem clashingPod_repeats_volume : ∃ pod podSpec,
    (workspacePod ⟨{}, "team"⟩ ⟨"notes"⟩ plainSpec (some clashingTemplate) false {}).outcome =
      .ok pod ∧
    pod.spec = some podSpec ∧
    (podSpec.volumes.getD []).map (·.name) = [claimVolumeName, claimVolumeName] ∧
    (templateSpec (some clashingTemplate)).containers = [] ∧
    templateInits (some clashingTemplate) = [] ∧
    ((templateSpec (some clashingTemplate)).volumes.getD []).map (·.name) = [claimVolumeName] :=
  ⟨_, _, rfl, rfl, rfl, rfl, rfl, rfl⟩

end PodWorkspace.Manifest
