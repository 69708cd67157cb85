import PodWorkspace.Dict
import PodWorkspace.Failure
import PodWorkspace.Text.Split

/-! Lists of the form `k1=v1,k2=v2`, in which labels, node selectors, annotations and resources are
given. White space around entries, keys and values says nothing, and blank entries are skipped. -/

namespace PodWorkspace.Manifest

/-- What is wrong with an entry. -/
inductive EntryFault where
  | notAPair (entry : String)
  | emptyKey (entry : String)
  deriving DecidableEq, Repr

def EntryFault.message : EntryFault → String
  | .notAPair entry => s!"entry '{entry}' is not in key=value form"
  | .emptyKey entry => s!"entry '{entry}' has an empty key"

/-- The entries of a list, without blank ones. -/
def listEntries (raw : String) : List String :=
  ((Text.split ',' raw).map Text.trim).filter (· != "")

def entryPair (entry : String) : Except EntryFault (String × String) :=
  match Text.cut '=' entry with
  | none => .error (.notAPair entry)
  | some (key, value) =>
    if Text.trim key = "" then .error (.emptyKey entry) else .ok (Text.trim key, Text.trim value)

/-- The keys and values of a list, in which the last entry with a key counts. -/
def keyValues (raw : String) : Except EntryFault (Dict String) := do
  return .ofList (← (listEntries raw).mapM entryPair)

def parseKeyValues (option raw : String) : Except Failure (Dict String) :=
  match keyValues raw with
  | .ok d => .ok d
  | .error fault => .error (.configuration option fault.message)

end PodWorkspace.Manifest
