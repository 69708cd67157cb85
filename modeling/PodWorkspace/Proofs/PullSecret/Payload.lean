import PodWorkspace.Proofs.Json.Record
import PodWorkspace.Proofs.Text.Base64
import PodWorkspace.PullSecret.Sync

/-! The content of a pull secret holds the credentials that it was made of: a docker configuration is
read back from its bytes, and for the registry of the image it gives the token, as long as the address
that goes with the credentials means that registry. -/

namespace PodWorkspace.PullSecret

open Json

namespace TokenEntry

def fields : List Field := ["auth", "email"].map .plain

/-- An entry as a table with all fields. -/
def table (e : TokenEntry) : List (String × Option Json) :=
  [("auth", some (.ofText e.auth)), ("email", some (.ofText e.email))]

def toJson (e : TokenEntry) : Json := .ofMembers [("auth", .ofText e.auth), ("email", .ofText e.email)]

def ofJson? (v : Json) : Option TokenEntry := do
  let r ← Json.record? fields v
  return ⟨← r.required? "auth" Json.text?, ← r.withDefault? "email" Json.text? ""⟩

theorem toJson_eq_present (e : TokenEntry) : e.toJson = .ofMembers (present e.table) := rfl

theorem areDistinct_fields : AreDistinct fields := by decide

theorem names_table (e : TokenEntry) : e.table.map (·.1) = fields.map (·.name) := rfl

theorem ofJson_toJson (e : TokenEntry) : ofJson? e.toJson = some e := by
  rw [ofJson?, toJson_eq_present, record_ofMembers_present areDistinct_fields e.names_table]
  rfl

end TokenEntry

namespace Payload

def fields : List Field := [.plain "auths"]

/-- A configuration as a table with its one field. -/
def table (p : Payload) : List (String × Option Json) :=
  [("auths", some (.ofDict TokenEntry.toJson p.auths))]

theorem toJson_eq_present (p : Payload) : p.toJson = .ofMembers (present p.table) := rfl

theorem areDistinct_fields : AreDistinct fields := by decide

theorem names_table (p : Payload) : p.table.map (·.1) = fields.map (·.name) := rfl

theorem ofJson_eq (v : Json) : ofJson? v = (do
    let r ← Json.record? fields v
    return ⟨← r.required? "auths" (Json.dict? TokenEntry.ofJson?)⟩) := rfl

theorem isNumberless_toJson (p : Payload) : p.toJson.isNumberless = true := by
  rw [toJson_eq_present, isNumberless_present]
  simp [table, ofDict, TokenEntry.toJson, isNumberless_ofMembers]

theorem ofJson_toJson (p : Payload) : ofJson? p.toJson = some p := by
  have hAuths : Json.dict? TokenEntry.ofJson? (.ofDict TokenEntry.toJson p.auths) = some p.auths :=
    dict_ofDict TokenEntry.ofJson_toJson p.auths
  rw [ofJson_eq, toJson_eq_present, record_ofMembers_present areDistinct_fields p.names_table]
  simp [Record.required?, present, table, hAuths]

/-- A docker configuration is read back from its bytes. -/
theorem ofBytes_bytes (p : Payload) : ofBytes p.bytes = .ok p := by
  rw [ofBytes, bytes, Text.ofUtf8?_utf8, Option.bind_some, read_render p.isNumberless_toJson,
    Option.bind_some, ofJson_toJson]

theorem get?_single (address token : String) :
    (single address token).auths.get? address =
      some ⟨Text.Base64.encode (Text.utf8 token), noReplyEmail⟩ := by
  simp [single, Dict.get?, Dict.single]

theorem token_single (address token : String) :
    (single address token).token address = .ok (some token) := by
  simp [Payload.token, get?_single]

end Payload

/-- The address under which the token for a registry is kept. -/
def addressFor (registry : String) (c : Registry.Credentials) : String :=
  if c.serverUrl.isEmpty then registry else c.serverUrl

/-- Whether credentials are for a registry by their own address, if they have one. -/
def IsFor (registry : String) (c : Registry.Credentials) : Prop :=
  c.serverUrl.isEmpty = true ∨ Registry.host c.serverUrl = Registry.host registry

theorem host_addressFor {registry : String} {c : Registry.Credentials} (h : IsFor registry c) :
    Registry.host (addressFor registry c) = Registry.host registry := by
  unfold addressFor
  split
  · rfl
  · rename_i hAddress
    exact h.resolve_left hAddress

/-- The token that was put into a secret for a registry is the one that is found there. -/
theorem tokenFor_contentFor {registry : String} {c : Registry.Credentials} (h : IsFor registry c) :
    tokenFor (contentFor registry c) registry = .ok (some c.token) := by
  have hContent : contentFor registry c = (Payload.single (addressFor registry c) c.token).bytes := rfl
  have hKeys : (Payload.single (addressFor registry c) c.token).auths.keys =
      [addressFor registry c] := rfl
  simp [tokenFor, hContent, Payload.ofBytes_bytes, bind, Except.bind, hKeys, host_addressFor h,
    Payload.token_single]

end PodWorkspace.PullSecret
