import PodWorkspace.Files
import PodWorkspace.Json.Reader
import PodWorkspace.Json.Record
import PodWorkspace.Log.Logged
import PodWorkspace.Registry.Credentials
import PodWorkspace.Registry.Host
import PodWorkspace.Text.Base64

/-! Credentials in the local docker configuration. For a registry its own credential helper is
asked; without one the entry kept for it counts; and without a usable entry the helper for all
registries is asked, if there is one. -/

namespace PodWorkspace.Registry

structure AuthEntry where
  /-- The user and the secret in base64. -/
  auth : Option String := none
  username : Option String := none
  password : Option String := none
  identityToken : Option String := none
  deriving DecidableEq, Repr, Inhabited

/-- The part of the docker configuration that is about credentials. -/
structure LocalConfig where
  auths : Dict AuthEntry := ∅
  /-- The helper for all registries. -/
  credsStore : Option String := none
  /-- The helpers for single registries. -/
  credHelpers : Dict String := ∅
  deriving DecidableEq

namespace AuthEntry

def ofJson? (v : Json) : Option AuthEntry := do
  let r ← Json.record? (["auth", "username", "password", "identitytoken"].map .plain) v
  let value (name : String) : Option (Option String) :=
    r.withDefault? name (Json.optional? Json.text?) none
  return {
    auth := ← value "auth"
    username := ← value "username"
    password := ← value "password"
    identityToken := ← value "identitytoken" }

/-- A text, unless it is empty. -/
def given (value : Option String) : Option String := value.filter fun s => !s.isEmpty

/-- The user and the secret that a base64 text holds. -/
def decodePair (auth : String) : Except Failure (String × String) :=
  match (Text.Base64.decode (Text.trim auth)).bind Text.ofUtf8? with
  | none => .error (.undecodable "DockerConfig")
  | some pair =>
    match Text.cut ':' pair with
    | some (username, secret) => .ok (username, secret)
    | none => .error
        (.serialization "auth entry is not in user:secret form" (some "DockerConfig"))

/-- The user and the secret of an entry, in which a token takes the place of the secret. -/
def userAndSecret (e : AuthEntry) : Except Failure (String × String) := do
  let (username, secret) ← match given e.auth with
    | some auth => decodePair auth
    | none => .ok (e.username.getD "", e.password.getD "")
  match given e.identityToken with
  | some token => return (if username = "<token>" then "" else username, token)
  | none => return (username, secret)

/-- The credentials of an entry that is kept under an address, if it has any. -/
def credentials (e : AuthEntry) (address : String) : Except Failure (Option Credentials) := do
  let (username, secret) ← e.userAndSecret
  if username.isEmpty && secret.isEmpty then return none
  else return some ⟨address, username, secret⟩

end AuthEntry

/-- Where a search for credentials ends: with what was found, or with a helper to ask. -/
inductive Search where
  | found (credentials : Option Credentials)
  | ask (helper : String)
  deriving DecidableEq, Repr

namespace LocalConfig

def ofJson? (v : Json) : Option LocalConfig := do
  let r ← Json.record? (["auths", "credsStore", "credHelpers"].map .plain) v
  return {
    auths := ← r.withDefault? "auths" (Json.dict? AuthEntry.ofJson?) ∅
    credsStore := ← r.withDefault? "credsStore" (Json.optional? Json.text?) none
    credHelpers := ← r.withDefault? "credHelpers" (Json.dict? Json.text?) ∅ }

def parse (raw : String) : Except Failure LocalConfig :=
  match (Json.read? raw).bind ofJson? with
  | some c => .ok c
  | none => .error (.undecodable "DockerConfig")

/-- The first entry of a map whose key means the same registry. -/
def entryFor? {α : Type} (d : Dict α) (registry : String) : Option (String × α) :=
  d.entries.find? fun e => host e.1 == host registry

def search (c : LocalConfig) (registry : String) : Except Failure Search :=
  match entryFor? c.credHelpers registry with
  | some (_, helper) => .ok (.ask helper)
  | none => do
    let kept ← match entryFor? c.auths registry with
      | some (address, entry) => entry.credentials address
      | none => .ok none
    match kept, AuthEntry.given c.credsStore with
    | none, some helper => return .ask helper
    | kept, _ => return .found kept

end LocalConfig

inductive HelperRun where
  | notStarted (why : String)
  | exited (code : Nat) (stdout stderr : String)
  deriving DecidableEq, Repr

def helperProgram (helper : String) : String := s!"docker-credential-{helper}"

def parseReply (registry stdout : String) : Except Failure Credentials :=
  let read? (v : Json) : Option Credentials := do
    let r ← Json.record? (["ServerURL", "Username", "Secret"].map .plain) v
    let serverUrl ← r.withDefault? "ServerURL" Json.text? ""
    return {
      serverUrl := if serverUrl.isEmpty then registry else serverUrl
      username := ← r.withDefault? "Username" Json.text? ""
      secret := ← r.withDefault? "Secret" Json.text? "" }
  match (Json.read? (Text.trim stdout)).bind read? with
  | some c => .ok c
  | none => .error (.undecodable "CredentialHelperReply")

/-- What a helper that was asked for a registry has to say. -/
def HelperRun.credentials (run : HelperRun) (helper registry : String) :
    Except Failure (Option Credentials) :=
  let operation := s!"run {helperProgram helper}"
  match run with
  | .notStarted why => .error (.ofCommand operation why)
  | .exited 0 stdout _ => (parseReply registry stdout).map some
  | .exited code stdout stderr =>
    if Text.occurs "credentials not found" (Text.lowerAscii stdout) then .ok none
    else .error (.ofCommandWithStderr operation s!"exited with exit status: {code}" stderr)

/-- The docker configuration in a file, and what helpers answer. -/
structure LocalStore where
  path : String
  files : Files
  runHelper : (helper registry : String) → HelperRun

namespace LocalStore

/-- The credentials for a registry. Without a configuration there are none. -/
def lookup (s : LocalStore) (registry : String) : Logged (Option Credentials) := do
  match s.files s.path with
  | .error .missing => do
    .log ⟨.trace, "No docker config", [("path", s.path)]⟩
    return none
  | .error fault => .ofExcept (.error (.ofCommand s!"read {s.path}" fault.message))
  | .ok raw => do
    let config ← .ofExcept (LocalConfig.parse raw)
    match ← .ofExcept (config.search registry) with
    | .found credentials => return credentials
    | .ask helper => do
      .log ⟨.debug, "Querying credential helper",
        [("helper", helperProgram helper), ("registry", registry)]⟩
      .ofExcept ((s.runHelper helper registry).credentials helper registry)

/-- The path of the configuration: in the directory that `DOCKER_CONFIG` names, else in the home
directory, else in the working directory. -/
def configPath (dockerConfig home : Option String) : String :=
  let directory := match AuthEntry.given dockerConfig, home with
    | some d, _ => d
    | none, some h => if h.endsWith "/" then h ++ ".docker" else h ++ "/.docker"
    | none, none => ".docker"
  if directory.endsWith "/" then directory ++ "config.json" else directory ++ "/config.json"

end LocalStore

end PodWorkspace.Registry
