import PodWorkspace.Proofs.Text.Split
import PodWorkspace.Registry.Image

/-! The two ways in which a registry is named: by the reference of an image, and by the address under
which credentials are kept. The address that a reference gives has the host that the reference names.
It is the one address of Docker Hub just when the host is one of its names in lower case, while the host
of an address is Docker Hub's in any letter case. -/

namespace PodWorkspace.Registry

variable {image h address : String}

/-- One host for all names of Docker Hub. -/
def canonical (h : String) : String := if hubAliases.contains h then hubHost else h

theorem host_of_slashless (hSlash : '/' ∉ h.toList) : host h = canonical (Text.lowerAscii h) := by
  have hScheme : withoutScheme h = h := by
    rw [withoutScheme, Text.stripFront_of_not_mem (by decide) hSlash,
      Text.stripFront_of_not_mem (by decide) hSlash]
    rfl
  rw [host, hScheme, Text.before_of_not_mem hSlash]
  rfl

theorem host_hubAddress : host hubAddress = hubHost := by decide +kernel

theorem canonical_eq_hubHost : canonical h = hubHost ↔ isHub h = true := by
  rw [canonical, isHub, Bool.or_eq_true, beq_iff_eq]
  split
  · rename_i hAlias
    exact iff_of_true rfl (.inr hAlias)
  · rename_i hAlias
    exact ⟨.inl, fun hEither => hEither.resolve_right hAlias⟩

theorem lowerAscii_of_isHub (hHub : isHub h = true) : Text.lowerAscii h = h := by
  have hNames : ∀ name ∈ hubHost :: hubAliases, Text.lowerAscii name = name := by decide +kernel
  refine hNames h ?_
  simpa [isHub] using hHub

/-- A host is one of Docker Hub's names when it is written in lower case and means Docker Hub. -/
theorem isHub_iff (hSlash : '/' ∉ h.toList) :
    isHub h = true ↔ host h = hubHost ∧ Text.lowerAscii h = h := by
  rw [host_of_slashless hSlash, canonical_eq_hubHost]
  constructor
  · intro hHub
    have hLower := lowerAscii_of_isHub hHub
    exact ⟨hLower.symm ▸ hHub, hLower⟩
  · rintro ⟨hHub, hLower⟩
    rwa [hLower] at hHub

/-- The reference begins with a host and a slash. -/
def NamesHost (image h : String) : Prop :=
  ∃ path, image = h ++ "/" ++ path ∧ '/' ∉ h.toList ∧ isHost h.toList = true

theorem NamesHost.slashless (hNames : NamesHost image h) : '/' ∉ h.toList := by
  obtain ⟨_, -, hSlash, -⟩ := hNames
  exact hSlash

theorem imageRegistry_of_namesHost (hNames : NamesHost image h)
    (hAddress : imageRegistry image = .ok address) :
    address = if isHub h then hubAddress else h := by
  obtain ⟨path, rfl, hSlash, hHost⟩ := hNames
  have hParts : hostAndPath (h ++ "/" ++ path).toList = (some h.toList, path.toList) := by
    have hCut := Text.cutChars_append hSlash path.toList
    simp [hostAndPath, hCut, hHost]
  unfold imageRegistry at hAddress
  cases hRead : imageRegistry? (h ++ "/" ++ path) with
  | error fault => simp [hRead] at hAddress
  | ok found =>
    obtain rfl : found = address := by simpa [hRead] using hAddress
    -- The checks say nothing about the host, so what they are does not matter here.
    simp only [ imageRegistry?, hParts] at hRead
    split at hRead
    · cases hRead
    split at hRead
    · cases hRead
    split at hRead
    · cases hRead
    split at hRead
    · cases hRead
    · simpa using hRead.symm

/-- The address that the reference of an image gives has the host that the reference names. It is the
one address of Docker Hub just for Docker Hub's hosts as long as these are written in lower case. -/
theorem imageRegistry_agrees_iff (hNames : NamesHost image h)
    (hAddress : imageRegistry image = .ok address) :
    host address = host h ∧
      ((address = hubAddress ↔ host h = hubHost) ↔ (host h = hubHost → Text.lowerAscii h = h)) := by
  have hOther : h ≠ hubAddress := by
    rintro rfl
    exact absurd hNames.slashless (by decide +kernel)
  have hHub := isHub_iff hNames.slashless
  rw [imageRegistry_of_namesHost hNames hAddress]
  by_cases hIs : isHub h = true
  · obtain ⟨hHost, hLower⟩ := hHub.1 hIs
    simp [hIs, host_hubAddress, hHost, hLower]
  -- The address is the host itself, so it is another one than Docker Hub's.
  · rw [if_neg hIs]
    refine ⟨rfl, ?_⟩
    rw [hHub, not_and] at hIs
    by_cases hHost : host h = hubHost
    · simp [hHost, hOther, hIs hHost]
    · simp [hHost, hOther]

theorem imageRegistry_agrees_iff_of_port :
    imageRegistry "Registry.Local:5000/team/app:1" = .ok "Registry.Local:5000" ∧
      host "Registry.Local:5000" = "registry.local:5000" ∧
      (("Registry.Local:5000" = hubAddress ↔ host "Registry.Local:5000" = hubHost) ↔
        (host "Registry.Local:5000" = hubHost →
          Text.lowerAscii "Registry.Local:5000" = "Registry.Local:5000")) := by
  have hAddress : imageRegistry "Registry.Local:5000/team/app:1" = .ok "Registry.Local:5000" := by
    rfl
  have hNames : NamesHost "Registry.Local:5000/team/app:1" "Registry.Local:5000" :=
    ⟨"team/app:1", by decide +kernel, by decide +kernel, by decide +kernel⟩
  exact ⟨hAddress, by decide +kernel, (imageRegistry_agrees_iff hNames hAddress).2⟩

/-- A capital letter in the name of Docker Hub hides it: the reference gives another address than Docker
Hub's, while that address is one of Docker Hub. -/
theorem imageRegistry_misses_hub :
    NamesHost "Docker.io/library/alpine" "Docker.io" ∧
      imageRegistry "Docker.io/library/alpine" = .ok "Docker.io" ∧
      host "Docker.io" = hubHost ∧ "Docker.io" ≠ hubAddress :=
  ⟨⟨"library/alpine", by decide +kernel, by decide +kernel, by decide +kernel⟩, rfl,
    by decide +kernel, by decide +kernel⟩

end PodWorkspace.Registry
