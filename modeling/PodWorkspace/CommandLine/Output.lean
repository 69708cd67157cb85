import PodWorkspace.CommandLine.Job
import PodWorkspace.Preview.Render
import PodWorkspace.Registry.LocalConfig
import PodWorkspace.Server.Client
import PodWorkspace.Server.Kubeconfig
import PodWorkspace.Workspace.Manage
import PodWorkspace.Workspace.Run

/-! Doing what an invocation asks for: what is printed, how it ends, and what is told about a
failure. The remote command has printed its own message, so its failure is only told when
debugging. -/

namespace PodWorkspace.CommandLine

open Cluster Server

structure Machine where
  files : Files
  env : Environment
  runHelper : (helper registry : String) → Registry.HelperRun
  /-- What can be read from standard input. -/
  stdin : Option String := none
  /-- The end of the next name that has to be unique. -/
  suffix : String

def Machine.credentials (m : Machine) : Registry.LocalStore :=
  ⟨Registry.LocalStore.configPath (m.env "DOCKER_CONFIG") (m.env "HOME"), m.files, m.runHelper⟩

/-- What a job printed, and how it ended. -/
structure Output where
  stdout : String := ""
  stderr : String := ""
  ended : Except Failure Unit := .ok ()

def Output.line (text : String) : Output := { stdout := text ++ "\n" }

def Task.perform (t : Task) (m : Machine) (w : Workspace) : Action Output :=
  match t with
  | .run spec => do w.run spec; return {}
  | .start => do w.start; return {}
  | .stop => do w.stop; return {}
  | .delete => do w.delete; return {}
  | .find => do
    match ← w.find with
    | some details => return .line details.text
    | none => return {}
  | .command user text => do
    let session ← w.command user text m.stdin
    return ⟨session.stdout, session.stderr, session.ended⟩
  | .targetArchitecture => do return .line (← w.targetArchitecture m.suffix)
  | .logs => do return { stdout := ← w.logs }

def Task.performOnCluster (t : Task) (m : Machine) (options : Options) : Talk Output := do
  let c := options.connection
  if let some path := c.kubeconfig then
    .note ⟨.debug, "Use Kubernetes config", [("kubeconfig", path)]⟩
  if let some name := c.context then
    .note ⟨.debug, "Use Kubernetes context", [("context", name)]⟩
  let ns ← .ofLogged (connect m.files m.env c)
  .answeredBy (Server.answer ns m.credentials.lookup) (t.perform m ⟨options, ns, m.files⟩)

/-- Prints the preview of a workspace. It needs no cluster, and a failure is only logged. -/
def printPreview (m : Machine) (options : Options) (isVerbose : Bool) : Talk Output := do
  let ns := options.connection.namespace.getD defaultNamespace
  let preview := Preview.render ⟨options, ns, m.files⟩ m.credentials.lookup isVerbose
  .ofLogged (.logAll preview.events)
  return .line preview.manifests

def Job.perform (j : Job) (m : Machine) : Talk Output :=
  match j with
  | .onCluster options task => task.performOnCluster m options
  | .renderTemplate options isVerbose => printPreview m options isVerbose
  | .canReprovision true => return {}
  | .canReprovision false =>
    .fail (.configuration reprovisioningFlag.envName "reprovisioning disabled")

def Invocation.perform (i : Invocation) (m : Machine) : Talk Output := do
  let job ← .ofExcept i.job
  job.perform m

def closingEvent (f : Failure) : Event :=
  match f with
  | .command _ _ _ (some code) =>
    ⟨.debug, "Command exited", [("exit_code", toString code), ("error", f.text)]⟩
  | _ => ⟨.error, f.text, []⟩

def exitCode : Except Failure Unit → Int
  | .ok _ => 0
  | .error f => f.exitCode

end PodWorkspace.CommandLine
