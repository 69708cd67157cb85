import PodWorkspace.Options.Report
import PodWorkspace.Preview.Recorder
import PodWorkspace.Workspace.Run

/-! The preview of a workspace: the manifests that its creation would write, for a made-up
specification. What is logged on the way is held back and only told when a verbose preview
fails. -/

namespace PodWorkspace.Preview

open Cluster

def placeholderSpec : RunSpec where
  uid := "FAKE-UID"
  user := "FAKE-USER"
  image := "devpod-sh:fake"
  entrypoint := "entrypoint"
  cmd := ["cmd"]
  privileged := some false
  workspaceMount := some (.volume "FAKE" "/workspaces/FAKE")

/-- A run of a program against a recorder. -/
structure Rehearsal (α : Type) where
  outcome : Except Failure α
  recorder : Recorder
  events : List Event
  /-- The registries that credentials were looked up for. -/
  lookups : List String

/-- Runs a program against a recorder and a store of credentials. No time passes. -/
def rehearse {α : Type} (lookUp : String → Logged (Option Registry.Credentials))
    (r : Recorder) : Action α → Rehearsal α
  | .done a => ⟨.ok a, r, [], []⟩
  | .fail f => ⟨.error f, r, [], []⟩
  | .cutOff => ⟨.error (.cancelled "preview"), r, [], []⟩
  | .log e rest =>
    let x := rehearse lookUp r rest
    { x with events := e :: x.events }
  | .clock k => rehearse lookUp r (k ⟨0⟩)
  | .sleep _ _ k => rehearse lookUp r (k true)
  | .call _ (.lookUp registry) k =>
    let found := lookUp registry
    let x := rehearse lookUp r (k (some found.outcome))
    { x with events := found.events ++ x.events, lookups := registry :: x.lookups }
  | .call _ request k =>
    let (a, r, events) := r.answer request
    let x := rehearse lookUp r (k (some a))
    { x with events := events ++ x.events }

structure Rendered where
  /-- The stream of documents. -/
  manifests : String
  /-- Why the manifests may not be all. -/
  error : Option Failure
  events : List Event
  lookups : List String

def openingEvents (w : Workspace) (isVerbose : Bool) : List Event :=
  if isVerbose then
    [⟨.info, s!"Rendering template with provider options:\n\n{w.options.report}", []⟩]
  else []

def closingEvents (isVerbose : Bool) (error : Option Failure) (held : List Event) : List Event :=
  match error with
  | none => []
  | some f =>
    let buffer := held.foldl LogBuffer.push LogBuffer.empty
    ⟨.warn, "Encountered an error, manifests might not be complete", [("error", f.text)]⟩ ::
      (buffer.finish isVerbose).1

def errorOf {α : Type} : Except Failure α → Option Failure
  | .ok _ => none
  | .error f => some f

def render (w : Workspace) (lookUp : String → Logged (Option Registry.Credentials))
    (isVerbose : Bool) : Rendered :=
  let x := rehearse lookUp {} (w.run (some placeholderSpec))
  let error := errorOf x.outcome
  { manifests := x.recorder.stream
    error
    events := openingEvents w isVerbose ++ closingEvents isVerbose error x.events
    lookups := x.lookups }

end PodWorkspace.Preview
