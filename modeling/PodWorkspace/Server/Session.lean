import PodWorkspace.Cluster.Meta
import PodWorkspace.Cluster.Request
import PodWorkspace.Json.Reader
import PodWorkspace.Server.Message

/-! Reading the session of a remote command: what it wrote to its two outputs, and how it ended. The
server reports the end on a channel of its own, and the session is over when it does. A command that
failed has its exit code in a cause of the report. -/

namespace PodWorkspace.Server

open Cluster

/-- The channels of a session. -/
def stdoutChannel : Nat := 1

@[inherit_doc stdoutChannel]
def stderrChannel : Nat := 2

@[inherit_doc stdoutChannel]
def reportChannel : Nat := 3

structure Cause where
  reason : Option String := none
  message : Option String := none
  deriving DecidableEq, Repr

/-- How a remote command ended, as the server reports it. -/
structure ExecReport where
  status : Option String := none
  reason : Option String := none
  message : Option String := none
  causes : List Cause := []
  deriving DecidableEq, Repr

namespace ExecReport

def kind : ObjectKind := ⟨"v1", "Status"⟩

/-- The metadata of a list of objects, and of a report. -/
def metadataShape : Shape :=
  .record [Shape.optional "continue" .text, Shape.optional "remainingItemCount" .int64,
    Shape.optional "resourceVersion" .text, Shape.optional "selfLink" .text]

/-- The members of a report that do not matter here, but have to be of their type. -/
def otherMembers : List (String × Bool × Shape) :=
  [Shape.optional "code" .int32, Shape.optional "metadata" metadataShape]

/-- The members of the details that do not matter here, but have to be of their type. -/
def otherDetails : List (String × Bool × Shape) :=
  [Shape.optional "group" .text, Shape.optional "kind" .text, Shape.optional "name" .text,
    Shape.optional "retryAfterSeconds" .int32, Shape.optional "uid" .text]

def cause? (d : Document) : Option Cause := do
  let given ← d.members?
  let _ ← carried? [Shape.optional "field" .text] given
  return ⟨← Document.optional? "reason" Document.text? given,
    ← Document.optional? "message" Document.text? given⟩

def causes? (d : Document) : Option (List Cause) := do
  let given ← d.members?
  let _ ← carried? otherDetails given
  return (← Document.optional? "causes" (Document.listOf? cause?) given).getD []

def ofDocument? (d : Document) : Option ExecReport := do
  let given ← d.members?
  kind.fits? given
  let _ ← carried? otherMembers given
  return {
    status := ← Document.optional? "status" Document.text? given
    reason := ← Document.optional? "reason" Document.text? given
    message := ← Document.optional? "message" Document.text? given
    causes := (← Document.optional? "details" causes? given).getD [] }

def ofText? (s : String) : Option ExecReport := do
  ofDocument? (Document.ofJson (← Json.read? s))

/-- The exit code that a text spells: an integer of 32 bits, with or without a sign. -/
def exitCode? (s : String) : Option Int := do
  let n : Int ← match (Text.trim s).toList with
    | '-' :: ds => (Text.natOfDigits? 10 ds).map fun n => -(n : Int)
    | '+' :: ds => (Text.natOfDigits? 10 ds).map fun n => (n : Int)
    | ds => (Text.natOfDigits? 10 ds).map fun n => (n : Int)
  if Document.hasWidth 32 n then some n else none

/-- The exit code in the first cause that has the reason for one. -/
def exitCodeOf? (r : ExecReport) : Option Int :=
  ((r.causes.find? fun c => c.reason == some "ExitCode").bind (·.message)).bind exitCode?

/-- How the command in a pod ended, by the report. -/
def outcome (r : ExecReport) (pod : String) : Except Failure Unit :=
  if r.status = some "Success" then .ok ()
  else match r.exitCodeOf? with
    | some code => .error (.exited s!"exec in {pod}" code r.message)
    | none => .error (.ofCommandWithStderr s!"exec in {pod}"
        (r.reason.getD "unknown failure") (r.message.getD ""))

end ExecReport

/-- How the command in a pod ended; without a report it counts as a success. -/
def execOutcome (pod : String) : Option ExecReport → Except Failure Unit
  | some r => r.outcome pod
  | none => .ok ()

namespace Session

/-- The pieces before the first on the channel for reports, and the text of that one. -/
def split : Session → Session × Option String
  | [] => ([], none)
  | (channel, text) :: rest =>
    if channel = reportChannel ∧ text ≠ "" then ([], some text)
    else
      let (before, report) := split rest
      ((channel, text) :: before, report)

def written (s : Session) (channel : Nat) : String :=
  String.join ((s.filter fun piece => piece.1 == channel).map (·.2))

def read (s : Session) (pod : String) : ExecSession where
  stdout := written s.split.1 stdoutChannel
  stderr := written s.split.1 stderrChannel
  ended := execOutcome pod (s.split.2.bind ExecReport.ofText?)

end Session

end PodWorkspace.Server
