import PodWorkspace.Manifest.WorkspacePod
import PodWorkspace.Readiness.Tick

/-! What is known about the pod of a workspace. The pod of one that is new has over the pod of one that
is not the init container that seeds its volumes, when there are any, and nothing else. Its workspace
container runs the image of the specification, and its account and its pull secrets are those of the
placement, else those of the template. -/

namespace PodWorkspace

open Cluster

/-- Whether a pod has the init container that seeds volumes. -/
def Cluster.Pod.IsSeeded (pod : Pod) : Prop :=
  ∃ c ∈ Readiness.declaredInits pod, c.name = Manifest.initContainerName

instance (pod : Pod) : Decidable pod.IsSeeded :=
  inferInstanceAs (Decidable (∃ c ∈ Readiness.declaredInits pod, c.name = Manifest.initContainerName))

/-- A pod without the init container that seeds volumes. -/
def Cluster.Pod.withoutSeed (pod : Pod) : Pod :=
  let others (spec : PodSpec) : List Container :=
    Manifest.othersThan Manifest.initContainerName (spec.initContainers.getD [])
  { pod with
    spec := pod.spec.map fun spec =>
      { spec with initContainers := Manifest.someIfCons (others spec) } }

/-- Whether a pod has a workspace container, and that runs an image. -/
structure Cluster.Pod.RunsImage (pod : Pod) (image : String) : Prop where
  present : ∃ c ∈ Readiness.declaredContainers pod, c.name = Manifest.devContainerName
  image : ∀ c ∈ Readiness.declaredContainers pod, c.name = Manifest.devContainerName →
    c.image = some image

/-- The service account that a pod names. -/
def Cluster.Pod.account? (pod : Pod) : Option String :=
  pod.spec.bind (·.serviceAccountName)

/-- The secrets with which the images of a pod are pulled. -/
def Cluster.Pod.pullSecrets? (pod : Pod) : Option (List String) :=
  pod.spec.bind (·.imagePullSecrets)

namespace Manifest

variable {s : Setting} {w : WorkspaceName} {spec : RunSpec} {template : Option Pod} {fresh : Bool}
  {placement : Placement} {declared inits : List Container} {pod : Pod}

@[simp] theorem name_mergeDeclared (built : Container) (declared : List Container) :
    (mergeDeclared built declared).name = built.name := by
  unfold mergeDeclared
  split <;> rfl

@[simp] theorem image_mergeDeclared (built : Container) (declared : List Container) :
    (mergeDeclared built declared).image = built.image := by
  unfold mergeDeclared
  split <;> rfl

theorem othersThan_othersThan (name : String) (containers : List Container) :
    othersThan name (othersThan name containers) = othersThan name containers := by
  simp [othersThan]

theorem not_mem_othersThan {name : String} {containers : List Container} {c : Container}
    (h : c ∈ othersThan name containers) : c.name ≠ name := by
  simpa using (List.mem_filter.1 h).2

@[simp] theorem getD_someIfCons {α : Type} (items : List α) : (someIfCons items).getD [] = items := by
  cases items <;> rfl

@[simp] theorem map_snd_numbered (mounts : List Mount) : (numbered mounts).map (·.2) = mounts :=
  List.map_snd_zip (by simp)

/-- There are volumes to seed when a volume is mounted. -/
theorem isEmpty_seededMounts (spec : RunSpec) :
    (seededMounts spec).isEmpty = !spec.mounts.any Mount.isVolume := by
  have hMounts : spec.mounts.any Mount.isVolume = (numbered spec.mounts).any (·.2.isVolume) := by
    conv => lhs; rw [← map_snd_numbered spec.mounts]
    rw [List.any_map]
    rfl
  rw [hMounts, seededMounts, List.isEmpty_map, Bool.eq_iff_iff]
  simp [List.filter_eq_nil_iff]

theorem initContainers_of_not_seeding (h : (!fresh || (seededMounts spec).isEmpty) = true) :
    initContainers s spec declared fresh = .ok (othersThan initContainerName declared) := by
  simp only [initContainers, h, if_true]

theorem initContainers_of_seeding (h : (!fresh || (seededMounts spec).isEmpty) = false)
    (hInits : initContainers s spec declared fresh = .ok inits) :
    ∃ resources, inits = othersThan initContainerName declared ++
      [mergeDeclared (seedContainer s spec resources (seededMounts spec)) declared] := by
  simp only [initContainers, h, Bool.false_eq_true, if_false] at hInits
  cases hResources : s.options.helperResources.mapM (parseResources "HELPER_RESOURCES") with
  | error f =>
    rw [hResources] at hInits
    cases hInits
  | ok resources =>
    rw [hResources] at hInits
    cases hInits
    exact ⟨resources, rfl⟩

@[simp] theorem name_seedContainer (resources : Option Resources) (mounts : List VolumeMount) :
    (seedContainer s spec resources mounts).name = initContainerName := rfl

/-- The init containers of a workspace that is not new are those of one that is, less the one that
seeds volumes. -/
theorem initContainers_false (h : initContainers s spec declared fresh = .ok inits) :
    initContainers s spec declared false = .ok (othersThan initContainerName inits) := by
  rw [initContainers_of_not_seeding rfl]
  cases hSeeding : !fresh || (seededMounts spec).isEmpty with
  | true =>
    rw [initContainers_of_not_seeding hSeeding] at h
    obtain rfl : othersThan initContainerName declared = inits := by simpa using h
    rw [othersThan_othersThan]
  | false =>
    obtain ⟨resources, rfl⟩ := initContainers_of_seeding hSeeding h
    simp [othersThan]

/-- The init container that seeds volumes is added in new workspaces that have some, and nothing else
is added. -/
theorem initContainers_eq (h : initContainers s spec declared fresh = .ok inits) :
    ∃ seeds, inits = othersThan initContainerName declared ++ seeds ∧
      seeds.map (·.name) =
        if fresh && spec.mounts.any Mount.isVolume then [initContainerName] else [] := by
  have hSeeding : (!fresh || (seededMounts spec).isEmpty) =
      !(fresh && spec.mounts.any Mount.isVolume) := by simp [isEmpty_seededMounts]
  cases hNew : fresh && spec.mounts.any Mount.isVolume with
  | true =>
    rw [hNew] at hSeeding
    obtain ⟨resources, rfl⟩ := initContainers_of_seeding hSeeding h
    exact ⟨[_], rfl, congrArg (fun name => [name]) (name_mergeDeclared _ _)⟩
  | false =>
    rw [hNew] at hSeeding
    rw [initContainers_of_not_seeding hSeeding] at h
    obtain rfl := Except.ok.inj h
    exact ⟨[], (List.append_nil _).symm, rfl⟩

/-- The init container that seeds volumes is there in new workspaces that have some. -/
theorem exists_seed_iff (h : initContainers s spec declared fresh = .ok inits) :
    (∃ c ∈ inits, c.name = initContainerName) ↔
      fresh = true ∧ spec.mounts.any Mount.isVolume = true := by
  obtain ⟨seeds, rfl, hNames⟩ := initContainers_eq h
  rw [← Bool.and_eq_true]
  cases hNew : fresh && spec.mounts.any Mount.isVolume with
  | true =>
    rw [hNew, if_pos rfl, List.map_eq_singleton_iff] at hNames
    obtain ⟨seed, rfl, hSeed⟩ := hNames
    exact iff_of_true ⟨seed, by simp, hSeed⟩ rfl
  | false =>
    rw [hNew, if_neg Bool.false_ne_true, List.map_eq_nil_iff] at hNames
    obtain rfl := hNames
    refine iff_of_false ?_ Bool.false_ne_true
    rintro ⟨c, hMem, hName⟩
    exact not_mem_othersThan (List.append_nil _ ▸ hMem) hName

/-- The init containers that a template declares. -/
def templateInits (template : Option Pod) : List Container :=
  ((template.getD barePod).spec.getD {}).initContainers.getD []

/-- The pod specification that a template has, or the one without a template. -/
def templateSpec (template : Option Pod) : PodSpec := (template.getD barePod).spec.getD {}

/-- What is found out before the pod of a workspace is put together. -/
structure Ingredients where
  workspace : Mount
  labels : Dict String
  nodeSelector : Dict String
  resources : Resources
  inits : List Container

/-- Whether all ingredients can be used. -/
structure Ingredients.Suit (i : Ingredients) (s : Setting) (spec : RunSpec) (template : Option Pod)
    (fresh : Bool) : Prop where
  workspace : (workspaceMount s spec).outcome = .ok i.workspace
  labels : podLabels s spec ((template.getD barePod).metadata.labels.getD ∅) = .ok i.labels
  nodeSelector : overlay "NODE_SELECTOR" ((templateSpec template).nodeSelector.getD ∅)
    s.options.nodeSelector = .ok i.nodeSelector
  resources : containerResources s spec (templateSpec template).containers = .ok i.resources
  inits : initContainers s spec (templateInits template) fresh = .ok i.inits

/-- The workspace container, with what the template has to say. -/
def Ingredients.container (i : Ingredients) (s : Setting) (spec : RunSpec) (template : Option Pod) :
    Container :=
  mergeDeclared (devContainer s spec i.resources i.workspace) (templateSpec template).containers

/-- The pod before anything is known about the cluster, put together. -/
def Ingredients.assembled (i : Ingredients) (s : Setting) (w : WorkspaceName) (spec : RunSpec)
    (template : Option Pod) : Pod where
  metadata := { (template.getD barePod).metadata with
    name := some w.resource
    «namespace» := some s.namespace
    labels := some i.labels }
  spec := some { templateSpec template with
    containers := othersThan devContainerName (templateSpec template).containers ++
      [i.container s spec template]
    initContainers := someIfCons i.inits
    volumes := some (claimVolume w :: (templateSpec template).volumes.getD [])
    nodeSelector := someIfNonempty i.nodeSelector }
  status := (template.getD barePod).status

theorem unplacedPod_eq_ok_iff : (unplacedPod s w spec template fresh).outcome = .ok pod ↔
    ∃ i : Ingredients, i.Suit s spec template fresh ∧ pod = i.assembled s w spec template := by
  constructor
  · intro h
    obtain ⟨workspace, hWorkspace, h⟩ := Logged.outcome_bind_eq_ok.1 h
    obtain ⟨labels, hLabels, h⟩ := Logged.outcome_bind_eq_ok.1 h
    obtain ⟨nodeSelector, hNodes, h⟩ := Logged.outcome_bind_eq_ok.1 h
    obtain ⟨resources, hResources, h⟩ := Logged.outcome_bind_eq_ok.1 h
    obtain ⟨_, -, h⟩ := Logged.outcome_bind_eq_ok.1 h
    obtain ⟨inits, hInits, h⟩ := Logged.outcome_bind_eq_ok.1 h
    exact ⟨⟨workspace, labels, nodeSelector, resources, inits⟩,
      ⟨hWorkspace, hLabels, hNodes, hResources, hInits⟩, (Except.ok.inj h).symm⟩
  · rintro ⟨i, hSuit, rfl⟩
    exact Logged.outcome_bind_eq_ok.2 ⟨_, hSuit.workspace,
      Logged.outcome_bind_eq_ok.2 ⟨_, hSuit.labels,
      Logged.outcome_bind_eq_ok.2 ⟨_, hSuit.nodeSelector,
      Logged.outcome_bind_eq_ok.2 ⟨_, hSuit.resources,
      Logged.outcome_bind_eq_ok.2 ⟨(), rfl,
      Logged.outcome_bind_eq_ok.2 ⟨_, hSuit.inits, rfl⟩⟩⟩⟩⟩⟩

/-- Only the init containers of a pod depend on whether the workspace is new. -/
theorem unplacedPod_ok (h : (unplacedPod s w spec template fresh).outcome = .ok pod) :
    ∃ inits podSpec, initContainers s spec (templateInits template) fresh = .ok inits ∧
      pod.spec = some podSpec ∧ podSpec.initContainers = someIfCons inits ∧
      ∀ other inits', initContainers s spec (templateInits template) other = .ok inits' →
        (unplacedPod s w spec template other).outcome =
          .ok { pod with spec := some { podSpec with initContainers := someIfCons inits' } } := by
  obtain ⟨i, hSuit, rfl⟩ := unplacedPod_eq_ok_iff.1 h
  -- Nothing else that the pod is put together from asks whether the workspace is new.
  refine ⟨i.inits, _, hSuit.inits, rfl, rfl, fun other inits' hOther => ?_⟩
  exact unplacedPod_eq_ok_iff.2 ⟨{ i with inits := inits' }, { hSuit with inits := hOther }, rfl⟩

theorem name_container (i : Ingredients) : (i.container s spec template).name = devContainerName :=
  name_mergeDeclared _ _

/-- The account and the pull secrets of a pod that is not placed are those of the template, and its
workspace container runs the image of the specification. -/
theorem unplacedPod_spec (h : (unplacedPod s w spec template fresh).outcome = .ok pod) :
    ∃ podSpec, pod.spec = some podSpec ∧ pod.RunsImage (s.image spec) ∧
      podSpec.serviceAccountName = template.bind Pod.account? ∧
      podSpec.imagePullSecrets = template.bind Pod.pullSecrets? := by
  obtain ⟨i, -, rfl⟩ := unplacedPod_eq_ok_iff.1 h
  refine ⟨_, rfl, ⟨?_, ?_⟩, ?_, ?_⟩
  · exact ⟨_, List.mem_append_right _ (List.mem_singleton_self _), name_container i⟩
  · intro c hMem hName
    obtain hOther | hLast := List.mem_append.1 hMem
    · exact absurd hName (not_mem_othersThan hOther)
    · rw [List.mem_singleton.1 hLast, Ingredients.container, image_mergeDeclared]
      rfl
  · cases template with
    | none => rfl
    | some pod => cases hSpec : pod.spec <;> simp [templateSpec, Pod.account?, hSpec]
  · cases template with
    | none => rfl
    | some pod => cases hSpec : pod.spec <;> simp [templateSpec, Pod.pullSecrets?, hSpec]

/-- A pod with its specification where a placement puts it. -/
def placedPod (s : Setting) (placement : Placement) (pod : Pod) : Pod :=
  { pod with spec := pod.spec.map (placed s placement) }

@[simp] theorem placedPod_default (pod : Pod) : placedPod s {} pod = pod := by
  obtain ⟨metadata, spec, status⟩ := pod
  cases spec <;> rfl

/-- A pod is placed after it is built, and that cannot fail. -/
theorem outcome_workspacePod : (workspacePod s w spec template fresh placement).outcome =
    (unplacedPod s w spec template fresh).outcome.map (placedPod s placement) := by
  rw [workspacePod, Logged.outcome_bind]
  cases (unplacedPod s w spec template fresh).outcome <;> rfl

theorem workspacePod_ok :
    (workspacePod s w spec template fresh placement).outcome = .ok pod ↔
      ∃ bare, (unplacedPod s w spec template fresh).outcome = .ok bare ∧
        pod = placedPod s placement bare := by
  rw [outcome_workspacePod]
  cases (unplacedPod s w spec template fresh).outcome <;> simp [Except.map, eq_comm]

/-- Where a pod is placed decides on its account and its pull secrets before the template does, and
leaves its image. -/
theorem workspacePod_placed
    (h : (workspacePod s w spec template fresh placement).outcome = .ok pod) :
    pod.RunsImage (s.image spec) ∧
      pod.account? = placement.serviceAccount.or (template.bind Pod.account?) ∧
      pod.pullSecrets? = (placement.pullSecret.map ([·])).or (template.bind Pod.pullSecrets?) := by
  obtain ⟨bare, hBare, rfl⟩ := workspacePod_ok.1 h
  obtain ⟨podSpec, hSpec, hImage, hAccount, hSecrets⟩ := unplacedPod_spec hBare
  have hContainers :
      Readiness.declaredContainers (placedPod s placement bare) = Readiness.declaredContainers bare := by
    simp [Readiness.declaredContainers, placedPod, hSpec, placed]
  refine ⟨⟨?_, ?_⟩, ?_, ?_⟩
  · rw [hContainers]
    exact hImage.present
  · rw [hContainers]
    exact hImage.image
  · simp [Pod.account?, placedPod, hSpec, placed, hAccount]
  · simp [Pod.pullSecrets?, placedPod, hSpec, placed, hSecrets]

/-- The init containers of the pod of a workspace. -/
theorem declaredInits_workspacePod
    (h : (workspacePod s w spec template fresh placement).outcome = .ok pod) :
    initContainers s spec (templateInits template) fresh = .ok (Readiness.declaredInits pod) := by
  obtain ⟨bare, hBare, rfl⟩ := workspacePod_ok.1 h
  obtain ⟨inits, podSpec, hInits, hSpec, hPodInits, -⟩ := unplacedPod_ok hBare
  have hDeclared : Readiness.declaredInits (placedPod s placement bare) = inits := by
    simp [Readiness.declaredInits, placedPod, hSpec, placed, hPodInits]
  rw [hDeclared, hInits]

/-- The pod of a workspace seeds its volumes when the workspace is new and has some. -/
theorem isSeeded_workspacePod
    (h : (workspacePod s w spec template fresh placement).outcome = .ok pod) :
    pod.IsSeeded ↔ fresh = true ∧ spec.mounts.any Mount.isVolume = true :=
  exists_seed_iff (declaredInits_workspacePod h)

/-- The pod of a workspace that is not new is that of one that is, less the container that seeds
volumes. -/
theorem workspacePod_false
    (h : (workspacePod s w spec template fresh placement).outcome = .ok pod) :
    (workspacePod s w spec template false placement).outcome = .ok pod.withoutSeed := by
  obtain ⟨bare, hBare, rfl⟩ := workspacePod_ok.1 h
  obtain ⟨inits, podSpec, hInits, hSpec, hPodInits, hOther⟩ := unplacedPod_ok hBare
  rw [workspacePod_ok]
  refine ⟨_, hOther false _ (initContainers_false hInits), ?_⟩
  simp [Pod.withoutSeed, placedPod, hSpec, placed, hPodInits]

end Manifest

end PodWorkspace
