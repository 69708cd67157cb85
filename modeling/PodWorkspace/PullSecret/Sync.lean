import PodWorkspace.Cluster.Request
import PodWorkspace.PullSecret.Payload
import PodWorkspace.Registry.Image

/-! Keeping the pull secret of a workspace in step with the credentials that are stored locally. A
secret whose content differs is deleted and created anew; without usable credentials nothing is
touched. -/

namespace PodWorkspace.PullSecret

open Cluster

inductive SyncOutcome where
  | created
  | unchanged
  | noCredentials
  deriving DecidableEq, Repr

/-- Whether the secret is there with the right content. -/
def SyncOutcome.isAttachable : SyncOutcome → Bool
  | .created | .unchanged => true
  | .noCredentials => false

/-- The complete credentials for a registry, if there are any. A failed lookup counts as none. -/
def usableCredentials (registry : String) : Action (Option Registry.Credentials) := do
  match ← .attempt (.ask (I := interface) (.lookUp registry)) with
  | .ok (some (credentials : Registry.Credentials)) =>
    if credentials.isComplete then return some credentials
    else do
      .note ⟨.debug, "No credentials for registry", [("registry", registry)]⟩
      return none
  | .ok none => do
    .note ⟨.debug, "No credentials for registry", [("registry", registry)]⟩
    return none
  | .error f => do
    .note ⟨.debug, "Couldn't retrieve credentials for registry",
      [("registry", registry), ("error", f.text)]⟩
    return none

def contentFor (registry : String) (c : Registry.Credentials) : Text.Bytes :=
  (Payload.single (if c.serverUrl.isEmpty then registry else c.serverUrl) c.token).bytes

def create (name «namespace» : String) (content : Text.Bytes) : Action SyncOutcome := do
  .ask (I := interface) (.createSecret (secret name «namespace» content))
  .note ⟨.info, "Pull secret created", [("secret", name)]⟩
  return .created

/-- Sees to it that the secret holds the credentials for the registry of an image. -/
def ensure (name «namespace» image : String) : Action SyncOutcome := do
  .note ⟨.debug, "Ensure pull secret", [("secret", name)]⟩
  let registry ← .ofExcept (Registry.imageRegistry image)
  match ← usableCredentials registry with
  | none => return .noCredentials
  | some credentials => do
    let content := contentFor registry credentials
    match ← .ask (I := interface) (.getSecret name) with
    | none => create name «namespace» content
    | some existing =>
      if content? existing = some content then do
        .note ⟨.debug, "Pull secret is up to date", [("secret", name)]⟩
        return .unchanged
      else do
        .note ⟨.debug, "Pull secret changed, recreating", [("secret", name)]⟩
        .ask (I := interface) (.deleteSecret name)
        create name «namespace» content

/-- Deletes the secret, if there is one. -/
def delete (name : String) : Action Unit := do
  match ← .ask (I := interface) (.getSecret name) with
  | none => .note ⟨.debug, "Pull secret does not exist", [("secret", name)]⟩
  | some _ => .ask (I := interface) (.deleteSecret name)

/-- The token that the content of a secret holds for a registry, under the first address that means
it. -/
def tokenFor (content : Text.Bytes) (registry : String) : Except Failure (Option String) := do
  let payload ← Payload.ofBytes content
  match payload.auths.keys.find? fun key => Registry.host key == Registry.host registry with
  | some key => payload.token key
  | none => return none

def read (name registry : String) : Action (Option String) := do
  match ← .ask (I := interface) (.getSecret name) with
  | none => return none
  | some s =>
    match content? s with
    | none => return none
    | some content => .ofExcept (tokenFor content registry)

end PodWorkspace.PullSecret
