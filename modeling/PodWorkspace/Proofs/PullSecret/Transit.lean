import PodWorkspace.Proofs.PullSecret.Payload
import PodWorkspace.Proofs.Registry.Lookup
import PodWorkspace.Proofs.Text.Split

/-! Credentials on their way from a docker configuration into a pull secret. The user and the secret
that an entry keeps in base64 are the ones that are found for its registry, and the token for them is
read back from the bytes of the secret, whatever characters the address, the user and the secret have. Only
a user without a name, or with a colon in it, would be taken for something else. -/

namespace PodWorkspace

open Json

namespace Registry

variable {c : LocalConfig} {e : AuthEntry} {address registry user secret raw : String}

/-! ### Configurations as texts -/

namespace AuthEntry

def fields : List Field := ["auth", "username", "password", "identitytoken"].map .plain

/-- An entry as a table with all fields. -/
def table (e : AuthEntry) : List (String × Option Json) :=
  [("auth", e.auth.map .ofText), ("username", e.username.map .ofText),
    ("password", e.password.map .ofText), ("identitytoken", e.identityToken.map .ofText)]

def toJson (e : AuthEntry) : Json := .ofMembers (present e.table)

theorem areDistinct_fields : AreDistinct fields := by decide

theorem names_table (e : AuthEntry) : e.table.map (·.1) = fields.map (·.name) := rfl

theorem ofJson_toJson (e : AuthEntry) : ofJson? e.toJson = some e := by
  have hValue (name : String) (value : Option String)
      (hName : (e.table.lookup name).join = value.map .ofText) :
      Record.withDefault? (present e.table) name (optional? text?) none = some value :=
    withDefault_optional ((lookup_of_record areDistinct_fields e.names_table name).trans hName)
      text_ofText nofun
  have hRecord : record? (["auth", "username", "password", "identitytoken"].map .plain) e.toJson =
      some (present e.table) := record_ofMembers_present areDistinct_fields e.names_table
  simp only [ofJson?, hRecord, Option.bind_eq_bind, Option.bind_some]
  rw [hValue "auth" e.auth rfl, hValue "username" e.username rfl, hValue "password" e.password rfl,
    hValue "identitytoken" e.identityToken rfl]
  rfl

end AuthEntry

namespace LocalConfig

def fields : List Field := ["auths", "credsStore", "credHelpers"].map .plain

def table (c : LocalConfig) : List (String × Option Json) :=
  [("auths", some (.ofDict AuthEntry.toJson c.auths)), ("credsStore", c.credsStore.map .ofText),
    ("credHelpers", some (.ofDict .ofText c.credHelpers))]

def toJson (c : LocalConfig) : Json := .ofMembers (present c.table)

theorem areDistinct_fields : AreDistinct fields := by decide

theorem names_table (c : LocalConfig) : c.table.map (·.1) = fields.map (·.name) := rfl

theorem ofJson_toJson (c : LocalConfig) : ofJson? c.toJson = some c := by
  have hField := lookup_of_record areDistinct_fields c.names_table
  have hRecord : record? (["auths", "credsStore", "credHelpers"].map .plain) c.toJson =
      some (present c.table) := record_ofMembers_present areDistinct_fields c.names_table
  have hAuths : Record.withDefault? (present c.table) "auths" (dict? AuthEntry.ofJson?) ∅ =
      some c.auths :=
    withDefault_of_written (hField "auths") (dict_ofDict AuthEntry.ofJson_toJson c.auths)
  have hStore : Record.withDefault? (present c.table) "credsStore" (optional? text?) none =
      some c.credsStore := withDefault_optional (hField "credsStore") text_ofText nofun
  have hHelpers : Record.withDefault? (present c.table) "credHelpers" (dict? text?) ∅ =
      some c.credHelpers :=
    withDefault_of_written (hField "credHelpers") (dict_ofDict text_ofText c.credHelpers)
  simp only [ofJson?, hRecord, Option.bind_eq_bind, Option.bind_some, hAuths, hStore, hHelpers]
  rfl

/-- A configuration as a text. -/
def render (c : LocalConfig) : String := c.toJson.render

theorem isNumberless_toJson (c : LocalConfig) : c.toJson.isNumberless = true := by
  have hEntry (e : AuthEntry) : e.toJson.isNumberless = true := by
    simp [AuthEntry.toJson, isNumberless_present, AuthEntry.table]
  have hAuths : (Json.ofDict AuthEntry.toJson c.auths).isNumberless = true := by
    simp [ofDict, isNumberless_ofMembers, hEntry]
  simp [toJson, isNumberless_present, table, hAuths, isNumberless_ofDict_ofText]

/-- Every configuration can stand in a file. -/
theorem parse_render (c : LocalConfig) : LocalConfig.parse c.render = .ok c := by
  rw [parse_eq_ok_iff, render, read_render c.isNumberless_toJson, Option.bind_some, ofJson_toJson]

end LocalConfig

/-! ### Entries that keep a user and a secret -/

theorem Credentials.token_eq (h : user ≠ "") :
    Credentials.token ⟨address, user, secret⟩ = user ++ ":" ++ secret := by
  have hNonempty : user.isEmpty = false := by simpa using h
  simp only [Credentials.token, hNonempty]
  rfl

namespace AuthEntry

/-- The entry keeps a user and a secret in base64, and no token in the place of the secret. -/
structure Keeps (e : AuthEntry) (user secret : String) : Prop where
  auth : e.auth = some (Text.Base64.encode (Text.utf8 (user ++ ":" ++ secret)))
  noToken : given e.identityToken = none

theorem given_encode {pair : String} (h : pair ≠ "") :
    given (some (Text.Base64.encode (Text.utf8 pair))) = some (Text.Base64.encode (Text.utf8 pair)) := by
  simp [given, Text.Base64.encode_utf8_ne_empty h]

/-- The pair is cut where the user ends, so the secret may have colons of its own. -/
theorem decodePair_encode (h : ':' ∉ user.toList) (secret : String) :
    decodePair (Text.Base64.encode (Text.utf8 (user ++ ":" ++ secret))) = .ok (user, secret) := by
  have hCut : Text.cut ':' (user ++ ":" ++ secret) = some (user, secret) := Text.cut_append h secret
  simp [decodePair, Text.Base64.trim_encode, hCut]

theorem Keeps.credentials (h : e.Keeps user secret) (hUser : user ≠ "") (hColon : ':' ∉ user.toList)
    (address : String) : e.credentials address = .ok (some ⟨address, user, secret⟩) := by
  have hPair : user ++ ":" ++ secret ≠ "" := by simp
  have hBoth : e.userAndSecret = .ok (user, secret) := by
    simp [userAndSecret, h.auth, given_encode hPair, decodePair_encode hColon, h.noToken, bind,
      Except.bind, pure, Except.pure]
  simp [AuthEntry.credentials, hBoth, bind, Except.bind, pure, Except.pure, hUser]

end AuthEntry

namespace LocalConfig

/-- The configuration has one entry, which keeps a user and a secret under an address. -/
def KeepsOnly (c : LocalConfig) (address user secret : String) : Prop :=
  ∃ e, c.auths = .single address e ∧ e.Keeps user secret

theorem entryFor?_single {α : Type} {value : α} (h : host address = host registry) :
    entryFor? (.single address value) registry = some (address, value) := by
  simp [entryFor?, Dict.single, h]

end LocalConfig

theorem LocalStore.outcome_lookup_of_keepsOnly {s : LocalStore} (hFile : s.files s.path = .ok raw)
    (hConfig : LocalConfig.parse raw = .ok c) (hHelpers : c.AsksNoHelper registry)
    (hKeeps : c.KeepsOnly address user secret) (hHost : host address = host registry)
    (hUser : user ≠ "") (hColon : ':' ∉ user.toList) :
    (s.lookup registry).outcome = .ok (some ⟨address, user, secret⟩) := by
  obtain ⟨e, hAuths, hEntry⟩ := hKeeps
  rw [outcome_lookup hFile hConfig hHelpers, hAuths, LocalConfig.entryFor?_single hHost]
  exact hEntry.credentials hUser hColon address

end Registry

namespace PullSecret

open Registry

variable {c : LocalConfig} {s : LocalStore} {address registry user secret raw : String}

/-- Credentials that a docker configuration keeps for a registry are found as they are, and the token
made of them is read back from the content of a pull secret. -/
theorem token_of_keepsOnly (hFile : s.files s.path = .ok raw) (hConfig : LocalConfig.parse raw = .ok c)
    (hHelpers : c.AsksNoHelper registry) (hKeeps : c.KeepsOnly address user secret)
    (hHost : host address = host registry) (hUser : user ≠ "") (hColon : ':' ∉ user.toList) :
    (s.lookup registry).outcome = .ok (some ⟨address, user, secret⟩) ∧
      ∃ p, Payload.ofBytes
          (Payload.single address (Credentials.token ⟨address, user, secret⟩)).bytes = .ok p ∧
        p.token address = .ok (some (user ++ ":" ++ secret)) := by
  refine ⟨LocalStore.outcome_lookup_of_keepsOnly hFile hConfig hHelpers hKeeps hHost hUser hColon,
    _, Payload.ofBytes_bytes _, ?_⟩
  rw [Payload.token_single, Credentials.token_eq hUser]

/-- A configuration in which the address has another spelling and a quotation mark in its path. -/
def teamConfig : LocalConfig where
  auths := .single "https://GHCR.io/\"v2\"/" { auth := some "Y3JldzpwOsOkwqc=" }

/-- A secret that has a colon and letters outside of ASCII. -/
theorem token_of_keepsOnly_team :
    ((LocalStore.ofText teamConfig.render).lookup "ghcr.io").outcome =
        .ok (some ⟨"https://GHCR.io/\"v2\"/", "crew", "p:ä§"⟩) ∧
      ∃ p, Payload.ofBytes (Payload.single "https://GHCR.io/\"v2\"/"
          (Credentials.token ⟨"https://GHCR.io/\"v2\"/", "crew", "p:ä§"⟩)).bytes = .ok p ∧
        p.token "https://GHCR.io/\"v2\"/" = .ok (some "crew:p:ä§") := by
  have hHelpers : teamConfig.AsksNoHelper "ghcr.io" := ⟨nofun, rfl⟩
  have hKeeps : teamConfig.KeepsOnly "https://GHCR.io/\"v2\"/" "crew" "p:ä§" :=
    ⟨_, rfl, by decide +kernel, rfl⟩
  exact token_of_keepsOnly rfl (LocalConfig.parse_render teamConfig) hHelpers hKeeps (by decide +kernel)
    (by decide) (by decide)

end PullSecret

end PodWorkspace
