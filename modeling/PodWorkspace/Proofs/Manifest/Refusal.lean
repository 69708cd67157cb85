import PodWorkspace.Manifest.Template
import PodWorkspace.Manifest.WorkspaceClaim
import PodWorkspace.Manifest.WorkspacePod

/-! Why a manifest cannot be built. Whatever is wrong with the options, the template or the
specification is reported as an option that cannot be used. -/

namespace PodWorkspace

open Cluster

/-- Whether a failure is about an option that cannot be used. -/
def Failure.isConfiguration : Failure → Bool
  | .configuration .. => true
  | _ => false

namespace Manifest

variable {α β : Type}

/-- Whether a computation fails only because of options that cannot be used. -/
def BlamesOptions (x : Except Failure α) : Prop :=
  ∀ f, x = .error f → f.isConfiguration = true

theorem blamesOptions_ok (a : α) : BlamesOptions (.ok a) := nofun

theorem blamesOptions_configuration (option message : String) :
    BlamesOptions (.error (.configuration option message) : Except Failure α) := by
  rintro f ⟨⟩
  rfl

theorem BlamesOptions.bind {x : Except Failure α} {next : α → Except Failure β}
    (h : BlamesOptions x) (hNext : ∀ a, BlamesOptions (next a)) : BlamesOptions (x >>= next) := by
  intro f hFailure
  cases x with
  | error e =>
    cases hFailure
    exact h _ rfl
  | ok a => exact hNext a f hFailure

theorem BlamesOptions.map {x : Except Failure α} (h : BlamesOptions x) (next : α → β) :
    BlamesOptions (x.map next) := by
  intro f hFailure
  cases x with
  | error e =>
    cases hFailure
    exact h _ rfl
  | ok a => cases hFailure

/-- A logged sequence fails for the reasons of its parts. -/
theorem BlamesOptions.andThen {x : Logged α} {next : α → Logged β} (h : BlamesOptions x.outcome)
    (hNext : ∀ a, BlamesOptions (next a).outcome) : BlamesOptions (x >>= next).outcome := by
  rw [Logged.outcome_bind]
  exact h.bind hNext

theorem blamesOptions_foldlM {step : β → α → Except Failure β} (h : ∀ b a, BlamesOptions (step b a))
    (items : List α) (b : β) : BlamesOptions (items.foldlM step b) := by
  induction items generalizing b with
  | nil => exact blamesOptions_ok b
  | cons a items ih =>
    rw [List.foldlM_cons]
    exact (h b a).bind ih

theorem blamesOptions_mapM {x : Option α} {next : α → Except Failure β}
    (h : ∀ a, BlamesOptions (next a)) : BlamesOptions (x.mapM next) := by
  cases x with
  | none => exact blamesOptions_ok none
  | some a => exact (h a).map some

/-! ### Texts of options -/

theorem blamesOptions_parseQuantity (option raw : String) :
    BlamesOptions (parseQuantity option raw) := by
  unfold parseQuantity
  split
  · exact blamesOptions_ok _
  · exact blamesOptions_configuration _ _

theorem blamesOptions_parseKeyValues (option raw : String) :
    BlamesOptions (parseKeyValues option raw) := by
  unfold parseKeyValues
  split
  · exact blamesOptions_ok _
  · exact blamesOptions_configuration _ _

theorem blamesOptions_overlay (option : String) (d : Dict String) (raw : Option String) :
    BlamesOptions (overlay option d raw) := by
  cases raw with
  | none => exact blamesOptions_ok d
  | some raw => exact (blamesOptions_parseKeyValues option raw).map _

theorem blamesOptions_addResource (option : String) (sofar : Dict String × Dict String)
    (e : String × String) : BlamesOptions (addResource option sofar e) := by
  refine (blamesOptions_parseQuantity option e.2).bind fun amount => ?_
  split
  · exact blamesOptions_ok _
  · exact blamesOptions_ok _
  · exact blamesOptions_configuration _ _

theorem blamesOptions_parseResources (option raw : String) :
    BlamesOptions (parseResources option raw) :=
  (blamesOptions_parseKeyValues option raw).bind fun _ =>
    (blamesOptions_foldlM (blamesOptions_addResource option) _ _).bind fun _ => blamesOptions_ok _

theorem blamesOptions_loadTemplate (files : Files) (option path : String) :
    BlamesOptions (loadTemplate files option path) := by
  unfold loadTemplate
  split
  · unfold parseTemplate
    split
    · exact blamesOptions_ok _
    · exact blamesOptions_configuration _ _
  · exact blamesOptions_configuration _ _

/-! ### Manifests -/

variable {s : Setting} {w : WorkspaceName} {spec : RunSpec} {template : Option Pod} {fresh : Bool}
  {placement : Placement} {declared : List Container}

theorem blamesOptions_containerResources : BlamesOptions (containerResources s spec declared) := by
  unfold containerResources
  split
  · exact blamesOptions_parseResources _ _
  · split
    · exact blamesOptions_parseResources _ _
    · exact blamesOptions_ok _

theorem blamesOptions_initContainers : BlamesOptions (initContainers s spec declared fresh) := by
  unfold initContainers
  dsimp only
  split
  · exact blamesOptions_ok _
  · exact (blamesOptions_mapM (blamesOptions_parseResources _)).bind fun _ => blamesOptions_ok _

theorem blamesOptions_workspaceMount : BlamesOptions (workspaceMount s spec).outcome := by
  unfold workspaceMount
  split
  · exact blamesOptions_configuration _ _
  · split
    · exact blamesOptions_ok _
    · split <;> exact blamesOptions_ok _

theorem blamesOptions_unplacedPod :
    BlamesOptions (unplacedPod s w spec template fresh).outcome :=
  blamesOptions_workspaceMount.andThen fun _ =>
    ((blamesOptions_overlay _ _ _).bind fun _ => blamesOptions_ok _).andThen fun _ =>
    (blamesOptions_overlay _ _ _).andThen fun _ =>
    blamesOptions_containerResources.andThen fun _ =>
    (blamesOptions_ok ()).andThen fun _ =>
    blamesOptions_initContainers.andThen fun _ => blamesOptions_ok _

theorem blamesOptions_workspacePod :
    BlamesOptions (workspacePod s w spec template fresh placement).outcome :=
  blamesOptions_unplacedPod.andThen fun _ => (blamesOptions_ok ()).andThen fun _ => blamesOptions_ok _

theorem blamesOptions_extraAnnotations : BlamesOptions (extraAnnotations s).outcome := by
  unfold extraAnnotations
  split
  · exact blamesOptions_ok _
  · split <;> exact blamesOptions_ok _

theorem blamesOptions_workspaceClaim (record : WorkspaceRecord) :
    BlamesOptions (workspaceClaim s w record).outcome :=
  (blamesOptions_parseQuantity _ _).andThen fun _ =>
    blamesOptions_extraAnnotations.andThen fun _ => blamesOptions_ok _

end Manifest

end PodWorkspace
