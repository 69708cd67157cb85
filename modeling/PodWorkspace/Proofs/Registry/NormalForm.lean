import PodWorkspace.Proofs.Registry.Host
import PodWorkspace.Proofs.Registry.Lookup
import PodWorkspace.Proofs.Text.Case
import PodWorkspace.PullSecret.Sync

/-! The host of an address is the one spelling of its registry. It has no scheme, slash or capital letter
left and is no other name of Docker Hub, so it is its own host, and so is that of every spelling of it.
What is found for a registry depends on this host alone: among stored credentials, when no helper is
asked with the address itself, and in the content of a pull secret. -/

namespace PodWorkspace

namespace Registry

variable {h address first second scheme path : String}

/-- A host in the spelling that stands for all others. -/
structure IsNormal (h : String) : Prop where
  slashless : '/' ∉ h.toList
  lower : Text.lowerAscii h = h
  canonical_eq : canonical h = h

theorem isNormal_hubHost : IsNormal hubHost := by
  constructor <;> decide +kernel

theorem isNormal_host (address : String) : IsNormal (host address) := by
  rw [host]
  split
  · exact isNormal_hubHost
  · rename_i hAlias
    have hSlash : '/' ∉ (Text.before '/' (withoutScheme address)).toList := Text.not_mem_before '/' _
    exact ⟨by rwa [Text.mem_lowerAscii_iff rfl], Text.lowerAscii_lowerAscii _, if_neg hAlias⟩

theorem IsNormal.host_eq (hNormal : IsNormal h) : host h = h := by
  rw [host_of_slashless hNormal.slashless, hNormal.lower, hNormal.canonical_eq]

/-- A path as it can follow a host: nothing, or a slash and what comes after it. -/
def IsPath (path : String) : Prop := path = "" ∨ ∃ rest, path = "/" ++ rest

theorem IsPath.stopsAt (hPath : IsPath path) : Text.StopsAt (· != '/') path.toList := by
  rcases hPath with rfl | ⟨rest, rfl⟩
  · exact Text.stopsAt_nil
  · simp

theorem withoutScheme_append (hScheme : scheme ∈ ["https://", "http://"]) (rest : String) :
    withoutScheme (scheme ++ rest) = rest := by
  rcases List.mem_pair.1 hScheme with rfl | rfl
  · rw [withoutScheme, Text.stripFront_append, Option.getD_some]
  · have hOther : Text.stripFront "https://" ("http://" ++ rest) = none := by
      simp [Text.stripFront, Text.dropFront]
    rw [withoutScheme, hOther, Text.stripFront_append, Option.getD_none, Option.getD_some]

/-- The spellings of a host: its letters in any case, alone or between a scheme and a path. -/
inductive Spells (h : String) : String → Prop
  | alone {other : String} (hLetters : Text.SameLetters h other) : Spells h other
  | inAddress {scheme other path : String} (hScheme : scheme ∈ ["https://", "http://"])
      (hLetters : Text.SameLetters h other) (hPath : IsPath path) :
      Spells h (scheme ++ other ++ path)

theorem host_of_sameLetters {other : String} (hSlash : '/' ∉ h.toList)
    (hLetters : Text.SameLetters h other) : '/' ∉ other.toList ∧ host other = host h := by
  have hLower := hLetters.lowerAscii_eq
  have hOther : '/' ∉ other.toList := by
    rwa [← Text.mem_lowerAscii_iff rfl, hLower, Text.mem_lowerAscii_iff rfl]
  exact ⟨hOther, by rw [host_of_slashless hOther, host_of_slashless hSlash, hLower]⟩

theorem Spells.host_eq (hSpells : Spells h address) (hSlash : '/' ∉ h.toList) :
    host address = host h := by
  cases hSpells with
  | alone hLetters => exact (host_of_sameLetters hSlash hLetters).2
  | @inAddress scheme other path hScheme hLetters hPath =>
    obtain ⟨hOther, hSame⟩ := host_of_sameLetters hSlash hLetters
    rw [← hSame, host_of_slashless hOther, String.append_assoc, host, withoutScheme_append hScheme,
      Text.before_append hOther hPath.stopsAt]
    rfl

/-! ### What is found for a registry -/

namespace LocalConfig

theorem AsksNoHelper.congr {c : LocalConfig} (hHelpers : c.AsksNoHelper first)
    (hHost : host first = host second) : c.AsksNoHelper second :=
  ⟨hHost ▸ hHelpers.own, hHelpers.common⟩

theorem entryFor?_congr {α : Type} {d : Dict α} (hHost : host first = host second) :
    entryFor? d first = entryFor? d second := by
  simp only [entryFor?, hHost]

end LocalConfig

/-- No configuration that the store reads names a helper that is asked for the registry. -/
def LocalStore.AsksNoHelper (s : LocalStore) (registry : String) : Prop :=
  ∀ raw c, s.files s.path = .ok raw → LocalConfig.parse raw = .ok c → c.AsksNoHelper registry

theorem LocalStore.lookup_congr {s : LocalStore} (hHelpers : s.AsksNoHelper first)
    (hHost : host first = host second) : s.lookup first = s.lookup second := by
  cases hFile : s.files s.path with
  | error fault => cases fault <;> simp only [lookup, hFile]
  | ok raw =>
    cases hConfig : LocalConfig.parse raw with
    | error f => simp only [lookup, hFile, hConfig, Logged.ofExcept_error_bind]
    | ok c =>
      have hAsks := hHelpers raw c hFile hConfig
      rw [lookup_eq hFile hConfig hAsks, lookup_eq hFile hConfig (hAsks.congr hHost),
        LocalConfig.entryFor?_congr hHost]

end Registry

namespace PullSecret

theorem tokenFor_congr {first second : String} (content : Text.Bytes)
    (hHost : Registry.host first = Registry.host second) :
    tokenFor content first = tokenFor content second := by
  simp only [tokenFor, hHost]

theorem read_congr {first second : String} (name : String)
    (hHost : Registry.host first = Registry.host second) : read name first = read name second := by
  simp only [read, tokenFor_congr _ hHost]

end PullSecret

namespace Registry

open LocalStore LocalConfig

/-- A host is its own normal form and that of all its spellings, and registries with the same normal form
are the same to every search that asks no helper and to every reader of a pull secret, whatever the
cluster answers. -/
theorem host_normalizes :
    (∀ address, host (host address) = host address) ∧
      (∀ h address, '/' ∉ h.toList → Spells h address → host address = host h) ∧
      ∀ first second, host first = host second →
        (∀ s : LocalStore, s.AsksNoHelper first → s.lookup first = s.lookup second) ∧
          ∀ name, PullSecret.read name first = PullSecret.read name second := by
  refine ⟨fun address => (isNormal_host address).host_eq,
    fun h address hSlash hSpells => hSpells.host_eq hSlash, fun first second hHost => ⟨?_, ?_⟩⟩
  · intro s hHelpers
    exact LocalStore.lookup_congr hHelpers hHost
  · intro name
    exact PullSecret.read_congr name hHost

theorem host_normalizes_of_capitals :
    '/' ∉ "ghcr.io".toList ∧ Spells "ghcr.io" "https://GHCR.io/v2/" ∧
      host "ghcr.io" = host "https://GHCR.io/v2/" ∧
      (ofText (spellingsText userText emptyText)).AsksNoHelper "ghcr.io" ∧
      (ofText (spellingsText userText emptyText)).lookup "ghcr.io" =
        (ofText (spellingsText userText emptyText)).lookup "https://GHCR.io/v2/" ∧
      PullSecret.read "pull-secret" "ghcr.io" = PullSecret.read "pull-secret" "https://GHCR.io/v2/" := by
  have hSlash : '/' ∉ "ghcr.io".toList := by decide +kernel
  have hLetters : Text.SameLetters "ghcr.io" "GHCR.io" := by
    unfold Text.SameLetters
    simp
  have hSpells : Spells "ghcr.io" ("https://" ++ "GHCR.io" ++ "/v2/") :=
    .inAddress (by simp) hLetters (.inr ⟨"v2/", by decide +kernel⟩)
  have hHost := (host_normalizes.2.1 _ _ hSlash hSpells).symm
  have hHelpers : (ofText (spellingsText userText emptyText)).AsksNoHelper "ghcr.io" := by
    intro raw c hFile hConfig
    obtain rfl : spellingsText userText emptyText = raw := Except.ok.inj hFile
    have hKnown : LocalConfig.parse (spellingsText userText emptyText) =
        .ok (spellings userEntry {}) := parse_eq_ok_iff.2 (by decide +kernel)
    obtain rfl : spellings userEntry {} = c := Except.ok.inj (hKnown.symm.trans hConfig)
    exact asksNoHelper_spellings _ _
  obtain ⟨hLookup, hRead⟩ := host_normalizes.2.2 _ _ hHost
  exact ⟨hSlash, hSpells, hHost, hHelpers, hLookup _ hHelpers, hRead _⟩

end Registry

end PodWorkspace
