import PodWorkspace.Json.Writer
import PodWorkspace.Server.Client
import PodWorkspace.Simulation.Ending

/-! Running a program against an API server that follows a script: each message takes the next of
the prepared replies, and when none is left it is refused. A message is on its way for a moment, so
it is not sent at all when its deadline has come. -/

namespace PodWorkspace.Simulation

open Server

inductive Prepared where
  | reply (r : Reply)
  /-- There is no reply, ever. -/
  | silence
  /-- A session opens. The server reads some bytes of standard input first. -/
  | session (pieces : Session) (stdinBytes : Nat)

inductive Heard where
  | message (m : Message)
  | stdin (text : String)

structure ScriptedServer where
  prepared : List Prepared := []
  /-- Whether the server can be reached. One that cannot hears nothing. -/
  isReachable : Bool := true
  now : Duration := ⟨0⟩
  /-- What was heard so far, the last first. -/
  heard : List Heard := []
  /-- The events so far, the last one first. -/
  events : List Event := []

namespace ScriptedServer

/-- The reply when the script has come to its end. -/
def exhausted : Reply where
  status := 500
  body := (Json.ofMembers [("apiVersion", .ofText "v1"), ("kind", .ofText "Status"),
    ("metadata", .ofMembers []), ("status", .ofText "Failure"),
    ("message", .ofText "script exhausted"), ("reason", .ofText "InternalError"),
    ("code", .ofNat 500)]).render

def take (s : ScriptedServer) (m : Message) : Prepared × ScriptedServer :=
  let s := { s with heard := .message m :: s.heard }
  match s.prepared with
  | [] => (.reply exhausted, s)
  | p :: rest => (p, { s with prepared := rest })

/-- The reply of a server that opens a session where none is asked for. -/
def switching : Reply := ⟨101, ""⟩

def unreachable : (e : Errand) → e.Answer
  | .exchange _ | .openSession .. => .error .unreachable

/-- The answer of a server that is reached, unless it never comes. -/
def serve (s : ScriptedServer) : (e : Errand) → Option e.Answer × ScriptedServer
  | .exchange m =>
    match s.take m with
    | (.reply r, s) => (some (.ok r), s)
    | (.silence, s) => (none, s)
    | (.session .., s) => (some (.ok switching), s)
  | .openSession m stdin =>
    match s.take m with
    | (.reply _, s) => (some (.error .notUpgraded), s)
    | (.silence, s) => (none, s)
    | (.session pieces 0, s) => (some (.ok pieces), s)
    | (.session pieces wanted, s) =>
      let sent := Text.utf8 (stdin.getD "")
      if sent.length < wanted then (none, s)
      else
        let text := (Text.ofUtf8? (sent.take wanted)).getD ""
        (some (.ok pieces), { s with heard := .stdin text :: s.heard })

/-- The answer to an errand, unless it never comes. -/
def answer (s : ScriptedServer) (e : Errand) : Option e.Answer × ScriptedServer :=
  if s.isReachable then s.serve e else (some (unreachable e), s)

/-- The server when patience is at its end. -/
def givenUp (s : ScriptedServer) : ScriptedServer := { s with now := patience }

/-- The server at a later time, unless it is later already. -/
def later (s : ScriptedServer) (time : Duration) : ScriptedServer :=
  { s with now := if s.now ≤ time then time else s.now }

def run {α : Type} (s : ScriptedServer) : Talk α → Ending α × ScriptedServer
  | .done a => (.done a, s)
  | .fail f => (.failed f, s)
  | .cutOff => (.hung, s.givenUp)
  | .log e rest => run { s with events := e :: s.events } rest
  | .clock k => run s (k s.now)
  | .sleep deadline till k =>
    match deadline with
    | some d => if d < till then run (s.later d) (k false) else run (s.later till) (k true)
    | none => run (s.later till) (k true)
  | .call deadline request k =>
    if deadline.any fun d => d ≤ s.now then run s (k none)
    else
      match s.answer request, deadline with
      | (some a, s), _ => run s (k (some (.ok a)))
      | (none, s), some d => run (s.later d) (k none)
      | (none, s), none => (.hung, s.givenUp)

end ScriptedServer

end PodWorkspace.Simulation
