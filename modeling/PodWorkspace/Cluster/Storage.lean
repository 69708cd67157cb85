import PodWorkspace.Cluster.Meta

/-! Claims for volumes that outlive the pods which mount them. -/

namespace PodWorkspace.Cluster

structure VolumeClaimSpec where
  accessModes : Option (List String) := none
  /-- The amounts asked for, and the most that may be given. -/
  requests : Option (Option (Dict String) × Option (Dict String)) := none
  storageClassName : Option String := none
  carried : Carried := []
  deriving Inhabited

def VolumeClaimSpec.toJson (s : VolumeClaimSpec) : Json :=
  .ofMembers <|
    member "accessModes" .ofTexts s.accessModes ++
    member "resources" (fun r : Option (Dict String) × Option (Dict String) =>
      .ofMembers (member "limits" textMapJson r.2 ++ member "requests" textMapJson r.1))
      s.requests ++
    member "storageClassName" .ofText s.storageClassName ++
    s.carried

def VolumeClaimSpec.ofDocument? (d : Document) : Option VolumeClaimSpec := do
  let given ← d.members?
  let requests? (d : Document) : Option (Option (Dict String) × Option (Dict String)) := do
    let given ← d.members?
    return (← Document.optional? "requests" textMap? given,
      ← Document.optional? "limits" textMap? given)
  return {
    accessModes := ← Document.optional? "accessModes" texts? given
    requests := ← Document.optional? "resources" requests? given
    storageClassName := ← Document.optional? "storageClassName" Document.text? given
    carried := ← carried? Shapes.carriedClaimSpec given }

structure VolumeClaim where
  metadata : ObjectMeta := {}
  spec : Option VolumeClaimSpec := none
  /-- The reported state, as JSON. -/
  status : Option Json := none
  deriving Inhabited

namespace VolumeClaim

def kind : ObjectKind := ⟨"v1", "PersistentVolumeClaim"⟩

def toJson (c : VolumeClaim) : Json :=
  .ofMembers <|
    kind.members ++ [("metadata", c.metadata.toJson)] ++
    member "spec" VolumeClaimSpec.toJson c.spec ++ member "status" id c.status

def ofDocument? (d : Document) : Option VolumeClaim := do
  let given ← d.members?
  kind.fits? given
  return {
    metadata := ← ObjectMeta.among? given
    spec := ← Document.optional? "spec" VolumeClaimSpec.ofDocument? given
    status := ← Document.optional? "status" Shapes.claimStatus.read? given }

/-- The name, or the empty text. -/
def name (c : VolumeClaim) : String := c.metadata.name.getD ""

end VolumeClaim

end PodWorkspace.Cluster
