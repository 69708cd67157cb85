import PodWorkspace.Proofs.Manifest.Labels

/-! What the pod of a workspace takes over from its template. The template gives way wherever the
provider needs a name or a label for itself, its lists stand in front of what is added to them, and of
several containers under a name of the provider's the last one counts. -/

namespace PodWorkspace.Manifest

open Cluster

variable {s : Setting} {w : WorkspaceName} {spec : RunSpec} {template : Option Pod} {fresh : Bool}
  {placement : Placement} {pod : Pod} {name : String} {containers : List Container} {c : Container}

/-! ### Containers under one name -/

/-- The first of the containers under a name. -/
def IsFirstNamed (name : String) (containers : List Container) (c : Container) : Prop :=
  c.name = name ∧ ∃ before after, containers = before ++ c :: after ∧
    ∀ other ∈ before, other.name ≠ name

/-- The last of the containers under a name. -/
def IsLastNamed (name : String) (containers : List Container) (c : Container) : Prop :=
  c.name = name ∧ ∃ before after, containers = before ++ c :: after ∧
    ∀ other ∈ after, other.name ≠ name

theorem find?_name_eq_some_iff :
    containers.find? (·.name == name) = some c ↔ IsFirstNamed name containers c := by
  simp [List.find?_eq_some_iff_append, IsFirstNamed]

theorem isFirstNamed_reverse :
    IsFirstNamed name containers.reverse c ↔ IsLastNamed name containers c := by
  refine and_congr_right fun _ => ⟨?_, ?_⟩
  · rintro ⟨before, after, hSplit, hOther⟩
    refine ⟨after.reverse, before.reverse, ?_, by simpa using hOther⟩
    rw [← List.reverse_reverse containers, hSplit]
    simp
  · rintro ⟨before, after, rfl, hOther⟩
    exact ⟨after.reverse, before.reverse, by simp, by simpa using hOther⟩

theorem lastNamed?_eq_some_iff :
    lastNamed? name containers = some c ↔ IsLastNamed name containers c := by
  rw [lastNamed?, List.getLast?_filter, find?_name_eq_some_iff, isFirstNamed_reverse]

/-- The last of the containers under a name, or nothing when there is none under it. -/
inductive LastNamed (name : String) (containers : List Container) : Option Container → Prop
  | none (hNone : ∀ c ∈ containers, c.name ≠ name) : LastNamed name containers none
  | some {c : Container} (hLast : IsLastNamed name containers c) : LastNamed name containers (some c)

theorem lastNamed_iff {last? : Option Container} :
    LastNamed name containers last? ↔ lastNamed? name containers = last? := by
  have hNone : lastNamed? name containers = none ↔ ∀ c ∈ containers, c.name ≠ name := by
    simp [lastNamed?]
  constructor
  · rintro (h | h)
    · exact hNone.2 h
    · exact lastNamed?_eq_some_iff.2 h
  · rintro rfl
    cases hLast : lastNamed? name containers with
    | none => exact .none (hNone.1 hLast)
    | some c => exact .some (lastNamed?_eq_some_iff.1 hLast)

/-- What a container that was built takes over from the one that is declared under its name, if there
is one. -/
structure Folds (built : Container) (declared? : Option Container) (c : Container) : Prop where
  env : c.env.getD [] = (declared?.bind (·.env)).getD [] ++ built.env.getD []
  volumeMounts : c.volumeMounts.getD [] =
    (declared?.bind (·.volumeMounts)).getD [] ++ built.volumeMounts.getD []
  ports : c.ports = (declared?.map (·.ports)).getD built.ports
  envFrom : c.envFrom = (declared?.map (·.envFrom)).getD built.envFrom
  imagePullPolicy : c.imagePullPolicy = (declared?.map (·.imagePullPolicy)).getD built.imagePullPolicy
  securityContext : c.securityContext = built.securityContext.or (declared?.bind (·.securityContext))
  /-- Nothing else is taken over. -/
  rest : c = { built with
    env := c.env, volumeMounts := c.volumeMounts, ports := c.ports, envFrom := c.envFrom
    imagePullPolicy := c.imagePullPolicy, securityContext := c.securityContext }

theorem getD_appended {α : Type} (first second : Option (List α)) :
    (appended first second).getD [] = first.getD [] ++ second.getD [] := by
  cases first <;> cases second <;> rfl

theorem folds_mergeDeclared (built : Container) (declared : List Container) :
    Folds built (lastNamed? built.name declared) (mergeDeclared built declared) := by
  unfold mergeDeclared
  cases lastNamed? built.name declared with
  | none => exact ⟨rfl, rfl, rfl, rfl, rfl, (Option.or_none).symm, rfl⟩
  | some c => exact ⟨getD_appended _ _, getD_appended _ _, rfl, rfl, rfl, rfl, rfl⟩

/-- The workspace container as it is built from a specification, with the mount of the workspace, and
merged with the one that a template declares, if it does. -/
structure IsDevContainer (s : Setting) (spec : RunSpec) (workspace : Mount)
    (declared? : Option Container) (c : Container) : Prop where
  name : c.name = devContainerName
  image : c.image = some (s.image spec)
  command : c.command = some [spec.entrypoint]
  args : c.args.getD [] = spec.cmd
  env : c.env.getD [] = (declared?.bind (·.env)).getD [] ++
    spec.env.entries.map fun e => { name := e.1, value := some e.2 }
  volumeMounts : c.volumeMounts.getD [] =
    (declared?.bind (·.volumeMounts)).getD [] ++ volumeMounts workspace spec.mounts
  ports : c.ports = declared?.bind (·.ports)
  envFrom : c.envFrom = declared?.bind (·.envFrom)
  imagePullPolicy : c.imagePullPolicy = declared?.bind (·.imagePullPolicy)
  securityContext : c.securityContext =
    if s.options.strictSecurity then declared?.bind (·.securityContext)
    else some {
      capabilities := (someIfCons spec.capAdd).map fun add => { add := some add }
      privileged := spec.privileged
      runAsUser := some 0
      runAsGroup := some 0
      runAsNonRoot := some false }

theorem getD_map_none {α : Type} (declared? : Option Container) (field : Container → Option α) :
    (declared?.map field).getD none = declared?.bind field := by
  cases declared? <;> rfl

theorem isDevContainer_mergeDeclared (resources : Resources) (workspace : Mount)
    (declared : List Container) : IsDevContainer s spec workspace (lastNamed? devContainerName declared)
      (mergeDeclared (devContainer s spec resources workspace) declared) := by
  have hFolds := folds_mergeDeclared (devContainer s spec resources workspace) declared
  have hName : (devContainer s spec resources workspace).name = devContainerName := rfl
  rw [hName] at hFolds
  exact {
    name := name_mergeDeclared _ _
    image := image_mergeDeclared _ _
    command := by rw [hFolds.rest]; rfl
    args := by rw [hFolds.rest]; exact getD_someIfCons spec.cmd
    env := by rw [hFolds.env]; congr 1; exact getD_someIfCons _
    volumeMounts := hFolds.volumeMounts
    ports := by rw [hFolds.ports]; exact getD_map_none _ _
    envFrom := by rw [hFolds.envFrom]; exact getD_map_none _ _
    imagePullPolicy := by rw [hFolds.imagePullPolicy]; exact getD_map_none _ _
    securityContext := by
      rw [hFolds.securityContext, devContainer, rootRights]
      cases s.options.strictSecurity <;> rfl }

/-- The workspace container of a pod stands after the other containers of the template. -/
theorem isDevContainer_workspacePod
    (h : (workspacePod s w spec template fresh placement).outcome = .ok pod) :
    ∃ workspace c, (workspaceMount s spec).outcome = .ok workspace ∧
      Readiness.declaredContainers pod =
        othersThan devContainerName (templateSpec template).containers ++ [c] ∧
      IsDevContainer s spec workspace
        (lastNamed? devContainerName (templateSpec template).containers) c := by
  obtain ⟨bare, hBare, rfl⟩ := workspacePod_ok.1 h
  obtain ⟨i, hSuit, rfl⟩ := unplacedPod_eq_ok_iff.1 hBare
  exact ⟨i.workspace, _, hSuit.workspace, rfl, isDevContainer_mergeDeclared _ _ _⟩

/-! ### The pod -/

/-- What the pod of a workspace is with respect to its template, where `podSpec` is its
specification. -/
structure MergesTemplate (s : Setting) (w : WorkspaceName) (spec : RunSpec) (template : Option Pod)
    (fresh : Bool) (pod : Pod) (podSpec : PodSpec) : Prop where
  name : pod.metadata.name = some w.resource
  «namespace» : pod.metadata.namespace = some s.namespace
  label : ∀ key, pod.metadata.label? key =
    if key = workspaceUidLabel then some spec.uid
    else if key = createdLabel then some "true"
    else (given? s.options.labels key).or (template.bind (·.metadata.label? key))
  containers : ∃ workspace last? c, (workspaceMount s spec).outcome = .ok workspace ∧
    podSpec.containers =
      (templateSpec template).containers.filter (·.name != devContainerName) ++ [c] ∧
    LastNamed devContainerName (templateSpec template).containers last? ∧
    IsDevContainer s spec workspace last? c
  inits : ∃ seeds, podSpec.initContainers.getD [] =
      ((templateSpec template).initContainers.getD []).filter (·.name != initContainerName) ++ seeds ∧
    seeds.map (·.name) =
      if fresh && spec.mounts.any Mount.isVolume then [initContainerName] else []
  volumes : podSpec.volumes =
    some ({ name := claimVolumeName, claim := some (w.resource, none) } ::
      (templateSpec template).volumes.getD [])
  nodeSelector : ∀ key, (podSpec.nodeSelector.getD ∅).get? key =
    (given? s.options.nodeSelector key).or (((templateSpec template).nodeSelector.getD ∅).get? key)
  /-- What is not about the placement of the pod is as the template has it. -/
  rest : pod = { template.getD barePod with
    metadata := { (template.getD barePod).metadata with
      name := pod.metadata.name
      «namespace» := pod.metadata.namespace
      labels := pod.metadata.labels }
    spec := some { templateSpec template with
      containers := podSpec.containers
      initContainers := podSpec.initContainers
      volumes := podSpec.volumes
      nodeSelector := podSpec.nodeSelector
      serviceAccountName := podSpec.serviceAccountName
      imagePullSecrets := podSpec.imagePullSecrets
      affinity := podSpec.affinity } }

theorem getD_someIfNonempty (d : Dict String) : (someIfNonempty d).getD ∅ = d := by
  unfold someIfNonempty
  split
  · rename_i hEmpty
    exact (Dict.ext (List.isEmpty_iff.1 hEmpty)).symm
  · rfl

/-- The pod of a workspace is merged with its template, wherever it is placed. -/
theorem mergesTemplate_workspacePod
    (h : (workspacePod s w spec template fresh placement).outcome = .ok pod) :
    ∃ podSpec, pod.spec = some podSpec ∧
      MergesTemplate s w spec template fresh pod podSpec := by
  have hLabel := label?_workspacePod h
  obtain ⟨bare, hBare, rfl⟩ := workspacePod_ok.1 h
  obtain ⟨i, hSuit, rfl⟩ := unplacedPod_eq_ok_iff.1 hBare
  refine ⟨_, rfl, ?_⟩
  exact {
    name := rfl
    «namespace» := rfl
    label := hLabel
    containers := ⟨i.workspace, _, _, hSuit.workspace, rfl, lastNamed_iff.2 rfl,
      isDevContainer_mergeDeclared _ _ _⟩
    inits := by
      obtain ⟨seeds, hInits, hNames⟩ := initContainers_eq hSuit.inits
      exact ⟨seeds, (getD_someIfCons _).trans hInits, hNames⟩
    volumes := rfl
    nodeSelector := fun key => by
      rw [← get?_overlay hSuit.nodeSelector]
      exact congrArg (·.get? key) (getD_someIfNonempty i.nodeSelector)
    rest := rfl }

/-- A setting with labels and a node selector of the user, in strict mode. -/
def crowdedSetting : Setting where
  options := {
    labels := some "team=b, devpod.sh/created=no"
    nodeSelector := some "disk=ssd"
    strictSecurity := true }
  «namespace» := "team"

/-- A specification with all kinds of mounts, some of which have a name of their own. -/
def crowdedSpec : RunSpec where
  uid := "uid-1"
  image := "debian"
  entrypoint := "/bin/sleep"
  env := .single "STAGE" "dev"
  workspaceMount := some (.volume "notes" "/workspaces/notes")
  mounts := [{ kind := "bind", source := "/src", target := "/dst" }, .volume "/cache" "/cache/",
    { kind := "tmpfs", target := "/tmp" }, .volume "" "/data"]

/-- A specification that mounts the workspace only. -/
def plainSpec : RunSpec where
  uid := "uid-1"
  image := "debian"
  entrypoint := "/bin/sleep"
  workspaceMount := some (.volume "notes" "/workspaces/notes")

/-- A template that uses names and labels of the provider's, some of them twice. -/
def crowdedTemplate : Pod where
  metadata := { labels := some ((Dict.single "team" "a").insert workspaceUidLabel "none") }
  spec := some {
    containers := [{ name := devContainerName, env := some [{ name := "OLD" }] }, { name := "proxy" },
      { name := devContainerName, env := some [{ name := "NEW" }], imagePullPolicy := some "Always" }]
    initContainers := some [{ name := initContainerName }, { name := "setup" }]
    volumes := some [{ name := "scratch" }]
    nodeSelector := some ((Dict.single "disk" "hdd").insert "zone" "a") }

/-- The pod of a new workspace for them. -/
def crowdedPod : Logged Pod :=
  workspacePod crowdedSetting ⟨"notes"⟩ crowdedSpec (some crowdedTemplate) true {}

theorem exists_crowdedPod : ∃ pod, crowdedPod.outcome = .ok pod := by
  have hOk : crowdedPod.outcome.toOption.isSome = true := by decide +kernel
  cases hPod : crowdedPod.outcome with
  | ok pod => exact ⟨pod, rfl⟩
  | error f =>
    rw [hPod] at hOk
    cases hOk

theorem mergesTemplate_crowdedPod : ∃ pod podSpec, crowdedPod.outcome = .ok pod ∧
    pod.spec = some podSpec ∧ MergesTemplate crowdedSetting ⟨"notes"⟩ crowdedSpec
      (some crowdedTemplate) true pod podSpec := by
  obtain ⟨pod, hPod⟩ := exists_crowdedPod
  obtain ⟨podSpec, hSpec, hMerges⟩ := mergesTemplate_workspacePod hPod
  exact ⟨pod, podSpec, hPod, hSpec, hMerges⟩

end PodWorkspace.Manifest
