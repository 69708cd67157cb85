import PodWorkspace.Failure
import PodWorkspace.Json.Basic
import PodWorkspace.Program.Basic
import PodWorkspace.Server.Address

/-! What is said to the API server and what comes back: a message with its reply, or a session, in
which both sides send pieces of text over numbered channels. -/

namespace PodWorkspace.Server

inductive Method where
  | get | post | delete
  deriving DecidableEq, Repr

def Method.name : Method → String
  | .get => "GET"
  | .post => "POST"
  | .delete => "DELETE"

structure Message where
  method : Method
  address : Address
  body : Option Json := none

structure Reply where
  status : Nat
  body : String
  deriving DecidableEq, Repr

/-- What the server sends in a session: pieces of text, each with its channel. -/
abbrev Session := List (Nat × String)

inductive Errand where
  | exchange (message : Message)
  /-- Opens a session, in which the text is sent as standard input. -/
  | openSession (message : Message) (stdin : Option String)

def Errand.Answer : Errand → Type
  | .exchange _ => Except ServerFault Reply
  | .openSession .. => Except ServerFault Session

abbrev interface : Interface := ⟨Errand, Errand.Answer⟩

abbrev Talk := Program interface

end PodWorkspace.Server
