import PodWorkspace.Cluster.Container
import PodWorkspace.Manifest.KeyValues
import PodWorkspace.Manifest.Quantity

/-! Resource amounts of a container as users list them: `requests.cpu=1,limits.memory=2Gi`. -/

namespace PodWorkspace.Manifest

/-- What a key stands for: a resource that is asked for, or one that is limited. -/
inductive ResourceKey where
  | request (resource : String)
  | limit (resource : String)
  deriving DecidableEq, Repr

/-- The meaning of a key, of which the part after the first point names the resource. -/
def resourceKey? (key : String) : Option ResourceKey :=
  match Text.cut '.' key with
  | some ("requests", resource) => if resource = "" then none else some (.request resource)
  | some ("limits", resource) => if resource = "" then none else some (.limit resource)
  | _ => none

def addResource (option : String) (sofar : Dict String × Dict String) (e : String × String) :
    Except Failure (Dict String × Dict String) := do
  let amount ← parseQuantity option e.2
  match resourceKey? e.1 with
  | some (.request resource) => return (sofar.1.insert resource amount, sofar.2)
  | some (.limit resource) => return (sofar.1, sofar.2.insert resource amount)
  | none => .error (.configuration option
      s!"unknown resource key '{e.1}', expected requests.<name> or limits.<name>")

/-- A map, unless nothing is in it. -/
def someIfNonempty (d : Dict String) : Option (Dict String) :=
  if d.isEmpty then none else some d

/-- The resource amounts that an option lists. The entries are checked in the order of their
keys. -/
def parseResources (option raw : String) : Except Failure Cluster.Resources := do
  let entries ← parseKeyValues option raw
  let (requests, limits) ← entries.entries.foldlM (addResource option) (∅, ∅)
  return { requests := someIfNonempty requests, limits := someIfNonempty limits }

end PodWorkspace.Manifest
