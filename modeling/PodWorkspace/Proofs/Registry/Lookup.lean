import PodWorkspace.Proofs.Dict
import PodWorkspace.Registry.LocalConfig

/-! What is found in a docker configuration that names no helper for a registry. Several spellings of
one registry can stand in it, each with an entry of its own; the first one in the order of the keys is
the only one that counts. So credentials that are stored are found when they stand in the first of these
entries, and nothing is found for a registry that no key means. -/

namespace PodWorkspace.Registry

namespace LocalConfig

variable {α : Type} {d : Dict α} {c : LocalConfig} {registry address : String} {value : α}
  {credentials : Credentials}

/-- The address stands before all others that mean the registry. -/
def IsFirst (d : Dict α) (registry address : String) : Prop :=
  ∀ e ∈ d.entries, host e.1 = host registry → address ≤ e.1

instance : Decidable (IsFirst d registry address) :=
  inferInstanceAs (Decidable (∀ e ∈ d.entries, host e.1 = host registry → address ≤ e.1))

/-- The entry for a registry is the first one whose key means it. -/
theorem entryFor?_eq_some_iff : entryFor? d registry = some (address, value) ↔
    d.get? address = some value ∧ host address = host registry ∧ IsFirst d registry address := by
  rw [entryFor?, List.find?_eq_some_iff_append, Dict.get?_eq_some_iff, beq_iff_eq]
  constructor
  · rintro ⟨hHost, before, after, hEntries, hBefore⟩
    refine ⟨by simp [hEntries], hHost, fun e hMem hSame => ?_⟩
    rw [hEntries] at hMem
    obtain hMem | hMem := List.mem_append.1 hMem
    · simpa [hSame] using hBefore e hMem
    · obtain rfl | hMem := List.mem_cons.1 hMem
      · exact String.le_refl _
      · have hSorted := (List.pairwise_append.1 (hEntries ▸ d.sorted)).2.1
        exact Std.le_of_lt ((List.pairwise_cons.1 hSorted).1 e hMem)
  · rintro ⟨hMem, hHost, hFirst⟩
    obtain ⟨before, after, hEntries⟩ := List.append_of_mem hMem
    refine ⟨hHost, before, after, hEntries, fun e hBefore => ?_⟩
    have hLess : e.1 < address :=
      (List.pairwise_append.1 (hEntries ▸ d.sorted)).2.2 e hBefore _ List.mem_cons_self
    have hOther : host e.1 ≠ host registry := fun hSame =>
      String.not_le.2 hLess (hFirst e (by simp [hEntries, hBefore]) hSame)
    simpa using hOther

theorem entryFor?_eq_none_iff : entryFor? d registry = none ↔
    ∀ e ∈ d.entries, host e.1 ≠ host registry := by
  simp [entryFor?, List.find?_eq_none]

theorem parse_eq_ok_iff {raw : String} :
    LocalConfig.parse raw = .ok c ↔ (Json.read? raw).bind ofJson? = some c := by
  unfold LocalConfig.parse
  split
  · rename_i found hRead
    simp [hRead]
  · rename_i hRead
    simp [hRead]

/-- No helper is asked for a registry. -/
structure AsksNoHelper (c : LocalConfig) (registry : String) : Prop where
  own : ∀ e ∈ c.credHelpers.entries, host e.1 ≠ host registry
  common : AuthEntry.given c.credsStore = none

/-- Usable credentials for a registry are stored under an address. -/
structure Offers (c : LocalConfig) (registry address : String) (credentials : Credentials) : Prop where
  kept : ∃ entry, c.auths.get? address = some entry ∧
    entry.credentials address = .ok (some credentials)
  host_eq : host address = host registry
  isComplete : credentials.isComplete = true

theorem search_of_asksNoHelper (hHelpers : c.AsksNoHelper registry) :
    c.search registry = ((entryFor? c.auths registry).elim (.ok none)
      fun e => e.2.credentials e.1).map .found := by
  rw [search, entryFor?_eq_none_iff.2 hHelpers.own, hHelpers.common]
  cases hEntry : entryFor? c.auths registry with
  | none => rfl
  | some e =>
    simp only [Option.elim_some]
    cases e.2.credentials e.1 with
    | error f => rfl
    | ok kept => cases kept <;> rfl

end LocalConfig

namespace LocalStore

open LocalConfig

variable {s : LocalStore} {c : LocalConfig} {raw registry address : String}
  {credentials : Credentials}

theorem lookup_eq (hFile : s.files s.path = .ok raw) (hConfig : LocalConfig.parse raw = .ok c)
    (hHelpers : c.AsksNoHelper registry) : s.lookup registry =
      .ofExcept ((entryFor? c.auths registry).elim (.ok none) fun e => e.2.credentials e.1) := by
  rw [lookup, hFile]
  simp only [hConfig, Logged.ofExcept_ok_bind, search_of_asksNoHelper hHelpers]
  cases (entryFor? c.auths registry).elim (.ok none) fun e => e.2.credentials e.1 with
  | error f => rfl
  | ok kept => rfl

theorem outcome_lookup (hFile : s.files s.path = .ok raw) (hConfig : LocalConfig.parse raw = .ok c)
    (hHelpers : c.AsksNoHelper registry) : (s.lookup registry).outcome =
      (entryFor? c.auths registry).elim (.ok none) fun e => e.2.credentials e.1 := by
  rw [lookup_eq hFile hConfig hHelpers, Logged.outcome_ofExcept]

/-- In a configuration without a helper for the registry, usable credentials that are stored for it are
found just when they stand first among the entries for it. None are found when there is no such entry. -/
theorem lookup_finds_iff (hFile : s.files s.path = .ok raw)
    (hConfig : LocalConfig.parse raw = .ok c) (hHelpers : c.AsksNoHelper registry) :
    ((∃ address credentials, c.Offers registry address credentials ∧
        (s.lookup registry).outcome = .ok (some credentials)) ↔
      ∃ address credentials, c.Offers registry address credentials ∧
        IsFirst c.auths registry address) ∧
    ((∀ e ∈ c.auths.entries, host e.1 ≠ host registry) →
      (s.lookup registry).outcome = .ok none) := by
  rw [outcome_lookup hFile hConfig hHelpers]
  refine ⟨⟨?_, ?_⟩, fun hNone => ?_⟩
  · rintro ⟨_, credentials, hOffers, hOutcome⟩
    -- What was found comes from the first entry, which need not be the one that was given.
    cases hEntry : entryFor? c.auths registry with
    | none => simp [hEntry] at hOutcome
    | some e =>
      obtain ⟨hKept, hHost, hFirst⟩ := entryFor?_eq_some_iff.1 hEntry
      rw [hEntry] at hOutcome
      exact ⟨e.1, credentials, ⟨⟨e.2, hKept, hOutcome⟩, hHost, hOffers.isComplete⟩, hFirst⟩
  · rintro ⟨address, credentials, hOffers, hFirst⟩
    obtain ⟨entry, hKept, hCredentials⟩ := hOffers.kept
    refine ⟨address, credentials, hOffers, ?_⟩
    rw [entryFor?_eq_some_iff.2 ⟨hKept, hOffers.host_eq, hFirst⟩]
    exact hCredentials
  · rw [entryFor?_eq_none_iff.2 hNone]
    rfl

/-- The store that reads a configuration from a text, on a system without helpers. -/
def ofText (raw : String) : LocalStore :=
  ⟨"config.json", fun _ => .ok raw, fun _ _ => .notStarted "No such file or directory (os error 2)"⟩

/-- A configuration with two spellings of one registry. -/
def spellings (first second : AuthEntry) : LocalConfig :=
  { auths := .ofList [("ghcr.io", first), ("https://ghcr.io", second)] }

def spellingsText (first second : String) : String :=
  "\x7b\"auths\":\x7b\"ghcr.io\":" ++ first ++ ",\"https://ghcr.io\":" ++ second ++ "\x7d\x7d"

def userEntry : AuthEntry := { auth := some "dXNlcjpwYXNz" }

def userText : String := "\x7b\"auth\":\"dXNlcjpwYXNz\"\x7d"

/-- What that entry holds. -/
def userAt (address : String) : Credentials := ⟨address, "user", "pass"⟩

def emptyText : String := "\x7b\x7d"

theorem asksNoHelper_spellings (first second : AuthEntry) :
    (spellings first second).AsksNoHelper "ghcr.io" := ⟨by simp [spellings], rfl⟩

theorem offers_userEntry {c : LocalConfig} {address : String}
    (hKept : c.auths.get? address = some userEntry) (hHost : host address = host "ghcr.io") :
    c.Offers "ghcr.io" address (userAt address) :=
  ⟨⟨userEntry, hKept, rfl⟩, hHost, rfl⟩

theorem lookup_finds_iff_of_spellings :
    ∃ address credentials, (spellings userEntry {}).Offers "ghcr.io" address credentials ∧
      ((ofText (spellingsText userText emptyText)).lookup "ghcr.io").outcome =
        .ok (some credentials) := by
  have hConfig : LocalConfig.parse (spellingsText userText emptyText) =
      .ok (spellings userEntry {}) := parse_eq_ok_iff.2 (by decide +kernel)
  have hOffers : (spellings userEntry {}).Offers "ghcr.io" "ghcr.io" (userAt "ghcr.io") :=
    offers_userEntry (by decide +kernel) rfl
  have hFirst : IsFirst (spellings userEntry {}).auths "ghcr.io" "ghcr.io" := by decide +kernel
  exact (lookup_finds_iff rfl hConfig (asksNoHelper_spellings _ _)).1.2 ⟨_, _, hOffers, hFirst⟩

/-- An entry without credentials hides the credentials under another spelling. -/
theorem lookup_misses_second :
    LocalConfig.parse (spellingsText emptyText userText) = .ok (spellings {} userEntry) ∧
      (spellings {} userEntry).AsksNoHelper "ghcr.io" ∧
      (spellings {} userEntry).Offers "ghcr.io" "https://ghcr.io" (userAt "https://ghcr.io") ∧
      ((ofText (spellingsText emptyText userText)).lookup "ghcr.io").outcome = .ok none := by
  have hConfig : LocalConfig.parse (spellingsText emptyText userText) =
      .ok (spellings {} userEntry) := parse_eq_ok_iff.2 (by decide +kernel)
  have hHelpers := asksNoHelper_spellings {} userEntry
  refine ⟨hConfig, hHelpers, offers_userEntry (by decide +kernel) (by decide +kernel), ?_⟩
  rw [outcome_lookup rfl hConfig hHelpers]
  rfl

end LocalStore

end PodWorkspace.Registry
