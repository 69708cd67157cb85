import PodWorkspace.Cluster.Pod
import PodWorkspace.Cluster.Storage
import PodWorkspace.Spec.Basic

/-! What is told about a workspace: when it was created, whether it runs and since when, and the
labels of its container. -/

namespace PodWorkspace

/-- The details of a workspace. Texts that are empty are left out of the record. -/
structure Details where
  id : String := ""
  created : String := ""
  status : String := ""
  startedAt : String := ""
  labels : Dict String := ∅
  deriving DecidableEq, Inhabited

namespace Details

def runningStatus : String := "running"

def exitedStatus : String := "exited"

/-- The text of a time, or the empty text. -/
def timeText (t : Option Timestamp) : String :=
  (t.map (·.preciseText)).getD ""

/-- The details of a workspace with a volume claim. Without a running pod it counts as exited, and
as started when the claim was created. -/
def ofObjects (claim : Cluster.VolumeClaim) (spec : RunSpec) (running : Option Cluster.Pod) :
    Details where
  id := claim.metadata.name.getD ""
  created := timeText claim.metadata.creationTimestamp
  status := if running.isSome then runningStatus else exitedStatus
  startedAt := match running with
    | some pod => timeText pod.metadata.creationTimestamp
    | none => timeText claim.metadata.creationTimestamp
  labels := spec.labelMap

def isRunning (d : Details) : Bool := d.status == runningStatus

/-- The member for a text that is left out when it is empty. -/
def textMember (name value : String) : List (String × Json) :=
  if value.isEmpty then [] else [(name, .ofText value)]

def toJson (d : Details) : Json :=
  .ofMembers <|
    textMember "ID" d.id ++ textMember "Created" d.created ++
    [("State", .ofMembers (textMember "Status" d.status ++ textMember "StartedAt" d.startedAt)),
      ("Config", .ofMembers
        (if d.labels.isEmpty then [] else [("Labels", .ofDict Json.ofText d.labels)]))]

def state? (v : Json) : Option (String × String) := do
  let r ← Json.record? (["Status", "StartedAt"].map .plain) v
  return (← r.withDefault? "Status" Json.text? "", ← r.withDefault? "StartedAt" Json.text? "")

def labels? (v : Json) : Option (Dict String) := do
  let r ← Json.record? [.plain "Labels"] v
  r.withDefault? "Labels" (Json.dict? Json.text?) ∅

def ofJson? (v : Json) : Option Details := do
  let r ← Json.record? (["ID", "Created", "State", "Config"].map .plain) v
  let (status, startedAt) ← r.withDefault? "State" state? ("", "")
  return {
    id := ← r.withDefault? "ID" Json.text? ""
    created := ← r.withDefault? "Created" Json.text? ""
    status
    startedAt
    labels := ← r.withDefault? "Config" labels? ∅ }

def text (d : Details) : String := d.toJson.render

def parse? (raw : String) : Option Details := (Json.read? raw).bind ofJson?

end Details

end PodWorkspace
