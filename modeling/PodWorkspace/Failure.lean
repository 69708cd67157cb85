import PodWorkspace.Text.Blank
import PodWorkspace.Time.Duration

/-! The ways in which an operation on a workspace fails, their wording and the exit codes of the
process that reports them. -/

namespace PodWorkspace

/-- Why a call to the API server has no usable answer. -/
inductive ServerFault where
  /-- The server refused the request, with a reason and a message of its own. -/
  | refused (code : Int) (reason message : String)
  /-- The body of a successful answer is not the object that was asked for. -/
  | undecodable
  /-- The request cannot be written, since a name does not fit into its address. -/
  | unwritable
  /-- An object was asked for by the empty name. -/
  | unnamed
  /-- The server did not open the session that was asked for. -/
  | notUpgraded
  /-- No connection to the server. -/
  | unreachable
  deriving DecidableEq, Repr

def ServerFault.message : ServerFault → String
  | .refused _ reason message => s!"ApiError: {message}: {reason}"
  | .undecodable => "Error deserializing response"
  | .unwritable => "HttpError: invalid uri character"
  | .unnamed => "A resource name cannot be empty"
  | .notUpgraded => "failed to switch protocol"
  | .unreachable => "ServiceError: client error (Connect)"

def ServerFault.serverMessage? : ServerFault → Option String
  | .refused _ _ message => some message
  | _ => none

inductive CommandFault where
  | told (message : String)
  | server (fault : ServerFault)
  deriving DecidableEq, Repr

def CommandFault.message : CommandFault → String
  | .told message => message
  | .server fault => fault.message

inductive Failure where
  /-- A required option is missing, or an option has a value that cannot be used. -/
  | configuration (option message : String)
  /-- A call to the cluster or a program failed; `exitCode` is that of a remote command. -/
  | command (operation : String) (fault : CommandFault) (stderr : Option String)
      (exitCode : Option Int)
  /-- The deadline passed while the pod was still starting. -/
  | timeout (workspace : String) (waited : Duration)
  /-- A container is in a state that it does not leave on its own. -/
  | criticalWorkload (workspace container reason message : String)
  /-- A record cannot be decoded or has no place for a value. -/
  | serialization (message : String) (kind : Option String)
  /-- The operation was cancelled before it finished. -/
  | cancelled (operation : String)
  /-- The workspace was never created. -/
  | workspaceNotFound (workspace : String)
  /-- No run specification was given and none is stored. -/
  | missingSpecification (workspace : String)
  deriving DecidableEq, Repr

namespace Failure

def ofCommand (operation message : String) : Failure :=
  .command operation (.told message) none none

/-- A command that failed with a message and text on its standard error. -/
def ofCommandWithStderr (operation message stderr : String) : Failure :=
  .command operation (.told message) (some stderr) none

/-- A remote command that ended with another exit code than 0. -/
def exited (operation : String) (code : Int) (stderr : Option String) : Failure :=
  .command operation (.told s!"exit code {code}") stderr (some code)

/-- A call that the API server did not answer; its own message counts as standard error. -/
def ofServer (operation : String) (fault : ServerFault) : Failure :=
  .command operation (.server fault) fault.serverMessage? none

def undecodable (kind : String) : Failure :=
  .serialization "malformed record" (some kind)

/-- The standard error after a colon, unless it is blank. -/
def stderrSuffix : Option String → String
  | none => ""
  | some s => if Text.isAllBlank s then "" else s!": {Text.trim s}"

def text : Failure → String
  | .configuration option message => s!"configuration error [{option}]: {message}"
  | .command operation fault stderr _ =>
    s!"{operation} failed: {fault.message}{stderrSuffix stderr}"
  | .timeout workspace waited =>
    s!"timed out after {waited.text} waiting for pod '{workspace}' to become ready"
  | .criticalWorkload workspace container reason message =>
    s!"pod '{workspace}' container '{container}' failed: {message} ({reason})"
  | .serialization message _ => s!"serialization error: {message}"
  | .cancelled operation => s!"{operation} cancelled"
  | .workspaceNotFound workspace => s!"persistent volume '{workspace}' not found"
  | .missingSpecification workspace =>
    s!"no options provided and no persistent volume claim found for workspace '{workspace}'"

def workspace? : Failure → Option String
  | .timeout workspace _ | .criticalWorkload workspace _ _ _ | .workspaceNotFound workspace
  | .missingSpecification workspace => some workspace
  | _ => none

/-- The exit code of the process: that of the remote command, 130 after a cancellation, else 1. -/
def exitCode : Failure → Int
  | .command _ _ _ (some code) => code
  | .cancelled _ => 130
  | _ => 1

def isCancelled : Failure → Bool
  | .cancelled _ => true
  | _ => false

end Failure

end PodWorkspace
