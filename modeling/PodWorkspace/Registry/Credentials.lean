/-! Credentials for one registry. -/

namespace PodWorkspace.Registry

/-- What a registry asks for, and the address under which it is kept. -/
structure Credentials where
  serverUrl : String := ""
  username : String := ""
  secret : String := ""
  deriving DecidableEq, Repr, Inhabited

namespace Credentials

/-- The user and the secret with a colon between them, or the secret alone. -/
def token (c : Credentials) : String :=
  if c.username.isEmpty then c.secret else s!"{c.username}:{c.secret}"

/-- Credentials without a secret are of no use. -/
def isComplete (c : Credentials) : Bool := !c.secret.isEmpty

end Credentials

end PodWorkspace.Registry
