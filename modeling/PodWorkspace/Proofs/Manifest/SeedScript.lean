import PodWorkspace.Proofs.Manifest.Staging
import PodWorkspace.Proofs.Text.Shell
import PodWorkspace.Proofs.Text.Split

/-! How the shell reads the script of the init container. The paths of a volume stand in its line as
they are, without quotes, so the shell takes the line for the words of one copy exactly when it takes
all characters of the target and the source for themselves. White space alone already cuts a path into
several fields. -/

namespace PodWorkspace.Manifest

open Cluster Text

variable {s : Setting} {w : WorkspaceName} {spec : RunSpec} {template : Option Pod} {fresh : Bool}
  {placement : Placement} {pod : Pod} {seed : Container}

/-- The words of the command that copies what is at the path of a mount to where it is staged, and goes
on when that fails. What the two paths are without the slashes at their end is said by
`isTrimmed_iff`. -/
def copyWords (m : VolumeMount) : List String :=
  ["cp", "-a", withoutEndSlashes m.mountPath ++ "/.", withoutEndSlashes (staged m).mountPath ++ "/",
    "||", "true"]

/-- The same as the tokens of a shell. -/
def copyTokens (m : VolumeMount) : List Shell.Token :=
  [.word "cp", .word "-a", .word (withoutEndSlashes m.mountPath ++ "/."),
    .word (withoutEndSlashes (staged m).mountPath ++ "/"), .operator "||", .word "true"]

/-- Whether all characters of the source and of the target of a mount satisfy `P`. -/
def AllChars (P : Char → Prop) (m : Mount) : Prop :=
  (∀ c ∈ m.source.toList, P c) ∧ ∀ c ∈ m.target.toList, P c

/-- When a line is read as the copy of a volume, which is given with its position. -/
structure CopyIsRead (m : Nat × Mount) (line : String) : Prop where
  fields : Shell.fields line = copyWords (claimMount m.1 m.2) ↔
    AllChars (fun c => Shell.isSeparator c = false) m.2
  tokens : Shell.tokens? line = some (copyTokens (claimMount m.1 m.2)) ↔
    AllChars (fun c => Shell.isBare c = true) m.2 ∧ Shell.opensBare m.2.target.toList = true

/-! ### The characters of the paths -/

section Characters

variable {P : Char → Prop}

/-- Slashes at the end of a path bring no new characters. -/
theorem forall_mem_withoutEndSlashes (hSlash : P '/') (path : String) :
    (∀ c ∈ (withoutEndSlashes path).toList, P c) ↔ ∀ c ∈ path.toList, P c := by
  obtain ⟨n, hPath⟩ := (isTrimmed_withoutEndSlashes path).slashes
  rw [hPath]
  constructor
  · intro h c hMem
    obtain hIn | hEnd := List.mem_append.1 hMem
    · exact h c hIn
    · rw [List.eq_of_mem_replicate hEnd]
      exact hSlash
  · exact fun h c hMem => h c (List.mem_append_left _ hMem)

theorem opensBare_withoutEndSlashes (path : String) (rest : List Char) :
    Shell.opensBare ((withoutEndSlashes path).toList ++ '/' :: rest) =
      Shell.opensBare path.toList := by
  obtain ⟨n, hPath⟩ := (isTrimmed_withoutEndSlashes path).slashes
  rw [hPath]
  cases (withoutEndSlashes path).toList with
  | cons c cs => rfl
  | nil => cases n <;> rfl

/-- The characters of the directory of a volume are those of its source, but for such as have no meaning
to the shell. -/
theorem forall_mem_directoryOf (hBare : ∀ c, Shell.isBare c = true → P c) {m : Mount}
    (hVolume : m.isVolume = true) (index : Nat) :
    (∀ c ∈ (directoryOf index m).toList, P c) ↔ ∀ c ∈ m.source.toList, P c := by
  by_cases hSource : m.source = ""
  · have hPlace : directoryOf index m = toString index := by simp [directoryOf, hSource]
    have hDigits : ∀ c ∈ (toString index).toList, P c := fun c hMem =>
      hBare c (Shell.isBare_of_isDigit
        (Nat.isDigit_of_mem_toDigits (by decide) (by decide) (Nat.toList_repr ▸ hMem)))
    simpa [hPlace, hSource] using hDigits
  · have hName : directoryOf index m = (stripFront "/" m.source).getD m.source := by
      simp [directoryOf, hVolume, hSource]
    rw [hName]
    cases hStrip : stripFront "/" m.source with
    | none => rfl
    | some rest =>
      obtain ⟨cs, hCs, rfl⟩ := Option.map_eq_some_iff.1 hStrip
      have hList : m.source.toList = '/' :: cs := dropFront_eq_some_iff.1 hCs
      have hSlash : P '/' := hBare '/' rfl
      simp [hList, hSlash]

/-- The same for both paths of a copy, with the target and the source of the volume. -/
theorem forall_mem_copyPaths (hBare : ∀ c, Shell.isBare c = true → P c) {m : Nat × Mount}
    (hVolume : m.2.isVolume = true) :
    ((∀ c ∈ (withoutEndSlashes m.2.target ++ "/.").toList, P c) ∧
      ∀ c ∈ (withoutEndSlashes (staged (claimMount m.1 m.2)).mountPath ++ "/").toList, P c) ↔
      AllChars P m.2 := by
  have hFixed {t : String} (h : t.toList.all Shell.isBare = true) : ∀ c ∈ t.toList, P c :=
    fun c hMem => hBare c (List.all_eq_true.1 h c hMem)
  have hSource := forall_mem_directoryOf hBare hVolume m.1
  rw [AllChars, and_comm, mountPath_staged_claimMount, ← hSource]
  simp only [String.toList_append, List.forall_mem_append,
    forall_mem_withoutEndSlashes (hBare '/' rfl)]
  exact ⟨fun h => ⟨h.1.1.2, h.2.1⟩,
    fun h => ⟨⟨⟨hFixed rfl, h.1⟩, hFixed rfl⟩, h.2, hFixed rfl⟩⟩

end Characters

/-! ### The lines of the script -/

theorem seedCommand_eq_join (m : VolumeMount) : seedCommand m = join " " (copyWords m) := by
  simp [seedCommand, copyWords, join, staged, stagingPath, ← String.toList_inj, toString]

theorem text_copyTokens (m : VolumeMount) : (copyTokens m).map Shell.Token.text = copyWords m := rfl

theorem forall_mem_copyWords_isField (m : VolumeMount) :
    (∀ word ∈ copyWords m, Shell.IsField word) ↔
      (∀ c ∈ (withoutEndSlashes m.mountPath ++ "/.").toList, Shell.isSeparator c = false) ∧
        ∀ c ∈ (withoutEndSlashes (staged m).mountPath ++ "/").toList, Shell.isSeparator c = false := by
  have hFixed : ∀ word ∈ ["cp", "-a", "||", "true"], Shell.IsField word := by
    intro word hMem
    simp only [List.mem_cons, List.not_mem_nil, or_false] at hMem
    obtain rfl | rfl | rfl | rfl := hMem <;> exact ⟨by decide, by simp [Shell.isSeparator]⟩
  have hPath {front back : String} (hBack : back ≠ "") : Shell.IsField (front ++ back) ↔
      ∀ c ∈ (front ++ back).toList, Shell.isSeparator c = false :=
    ⟨(·.noSeparator), fun h => ⟨by simp [hBack], h⟩⟩
  simp only [List.forall_mem_cons] at hFixed
  simp only [copyWords, List.forall_mem_cons, hFixed, hPath (by decide : "/." ≠ ""),
    hPath (by decide : "/" ≠ "")]
  simp

theorem forall_mem_copyTokens_isSound (index : Nat) (m : Mount) :
    (∀ t ∈ copyTokens (claimMount index m), t.IsSound) ↔
      ((∀ c ∈ (withoutEndSlashes m.target ++ "/.").toList, Shell.isBare c = true) ∧
        ∀ c ∈ (withoutEndSlashes (staged (claimMount index m)).mountPath ++ "/").toList,
          Shell.isBare c = true) ∧ Shell.opensBare m.target.toList = true := by
  have hFixed : ∀ t ∈ [Shell.Token.word "cp", .word "-a", .operator "||", .word "true"],
      t.IsSound := by
    intro t hMem
    simp only [List.mem_cons, List.not_mem_nil, or_false] at hMem
    obtain rfl | rfl | rfl | rfl := hMem
    · exact ⟨by decide, List.all_eq_true.1 rfl, rfl⟩
    · exact ⟨by decide, List.all_eq_true.1 rfl, rfl⟩
    · exact List.contains_iff_mem.1 rfl
    · exact ⟨by decide, List.all_eq_true.1 rfl, rfl⟩
  have hTarget : Shell.opensBare (withoutEndSlashes m.target ++ "/.").toList =
      Shell.opensBare m.target.toList := by
    rw [String.toList_append]
    exact opensBare_withoutEndSlashes m.target ['.']
  have hStaged : Shell.opensBare
      (withoutEndSlashes (staged (claimMount index m)).mountPath ++ "/").toList = true := by
    have hRoot : Shell.opensBare ("/devpod/" ++ directoryOf index m).toList = true := by
      rw [String.toList_append]
      rfl
    rw [String.toList_append, mountPath_staged_claimMount]
    exact (opensBare_withoutEndSlashes _ []).trans hRoot
  have hPath {front back : String} (hBack : back ≠ "") : (Shell.Token.word (front ++ back)).IsSound ↔
      (∀ c ∈ (front ++ back).toList, Shell.isBare c = true) ∧
        Shell.opensBare (front ++ back).toList = true :=
    ⟨fun h => ⟨h.bare, h.opens⟩, fun h => ⟨by simp [hBack], h.1, h.2⟩⟩
  have hMount : (claimMount index m).mountPath = m.target := rfl
  simp only [List.forall_mem_cons] at hFixed
  simp only [copyTokens, List.forall_mem_cons, hFixed, hPath (by decide : "/." ≠ ""),
    hPath (by decide : "/" ≠ ""), hMount, hTarget, hStaged]
  simp [and_assoc, and_comm]

/-- The line of a volume is read as its copy when no character of its paths stands in the way. -/
theorem copyIsRead_seedCommand {m : Nat × Mount} (hVolume : m.2.isVolume = true) :
    CopyIsRead m (seedCommand (claimMount m.1 m.2)) where
  fields := by
    have hPaths := forall_mem_copyPaths (fun c hBare => (Shell.isBare_iff.1 hBare).2.1) hVolume
    rw [seedCommand_eq_join, Shell.fields_join_iff, forall_mem_copyWords_isField, ← hPaths]
    rfl
  tokens := by
    have hPaths := forall_mem_copyPaths (P := fun c => Shell.isBare c = true) (fun c => id) hVolume
    rw [seedCommand_eq_join, ← text_copyTokens, Shell.tokens?_join_iff,
      forall_mem_copyTokens_isSound, hPaths]

theorem snd_mem_mounts {m : Nat × Mount} (h : m ∈ numberedVolumes spec) : m.2 ∈ spec.mounts := by
  rw [← map_snd_numbered spec.mounts]
  exact List.mem_map_of_mem (List.mem_filter.1 h).1

theorem noBreak_seedCommand {m : Nat × Mount} (hVolume : m.2.isVolume = true)
    (hBreaks : AllChars (· ≠ '\n') m.2) : '\n' ∉ (seedCommand (claimMount m.1 m.2)).toList := by
  have hBare (c : Char) (h : Shell.isBare c = true) : c ≠ '\n' := by
    rintro rfl
    cases h
  obtain ⟨hFrom, hTo⟩ := (forall_mem_copyPaths hBare hVolume).2 hBreaks
  have hLine : (seedCommand (claimMount m.1 m.2)).toList =
      "cp -a ".toList ++ (withoutEndSlashes m.2.target ++ "/.").toList ++ ' ' ::
        (withoutEndSlashes (staged (claimMount m.1 m.2)).mountPath ++ "/").toList ++
        " || true".toList := by
    simp [seedCommand_eq_join, copyWords, join, claimMount]
  rw [hLine]
  intro hMem
  simp only [List.mem_append, List.mem_cons] at hMem
  obtain ((hStart | hIn) | hSpace | hIn) | hEnd := hMem
  · simp at hStart
  · exact hFrom _ hIn rfl
  · cases hSpace
  · exact hTo _ hIn rfl
  · simp at hEnd

/-- The script has one line for each volume, in their order. -/
theorem split_script (hBreaks : ∀ m ∈ spec.mounts, AllChars (· ≠ '\n') m) :
    split '\n' (((seededMounts spec).map copyLine).foldr (· ++ ·) "") =
      (seededMounts spec).map seedCommand ++ [""] := by
  have hNone : ∀ line ∈ (seededMounts spec).map seedCommand, '\n' ∉ line.toList := by
    rw [seededMounts_eq_map, List.map_map, List.forall_mem_map]
    exact fun m hMem => noBreak_seedCommand (List.mem_filter.1 hMem).2 (hBreaks _ (snd_mem_mounts hMem))
  rw [← split_lines hNone, List.map_map]
  rfl

/-- Each line of the script is read as the copy of one volume, in their order, exactly when no character
of the target and the source of that volume means something to the shell. -/
theorem seedLines_read_iff (h : (workspacePod s w spec template fresh placement).outcome = .ok pod)
    (hMem : seed ∈ Readiness.declaredInits pod) (hName : seed.name = initContainerName)
    (hBreaks : ∀ m ∈ spec.mounts, AllChars (· ≠ '\n') m) :
    ∃ script lines, seed.args = some ["-c", script] ∧ split '\n' script = lines ++ [""] ∧
      List.Forall₂ CopyIsRead (numberedVolumes spec) lines := by
  obtain ⟨lines, hCopies, hArgs⟩ := (seedsVolumes_of_mem h hMem hName).args
  obtain rfl := forall₂_copies_iff.1 hCopies
  refine ⟨_, _, hArgs, split_script hBreaks, ?_⟩
  rw [seededMounts_eq_map, List.map_map, List.forall₂_map_right_iff, List.forall₂_same]
  exact fun m hVolume => copyIsRead_seedCommand (List.mem_filter.1 hVolume).2

theorem seedLines_read_of_crowdedSpec : ∃ pod seed script lines,
    (workspacePod ⟨{}, "team"⟩ ⟨"notes"⟩ crowdedSpec none true {}).outcome = .ok pod ∧
      seed ∈ Readiness.declaredInits pod ∧ seed.name = initContainerName ∧
      (∀ m ∈ crowdedSpec.mounts, AllChars (· ≠ '\n') m) ∧
      seed.args = some ["-c", script] ∧ split '\n' script = lines ++ [""] ∧
      List.Forall₂ CopyIsRead [(2, .volume "/cache" "/cache/"), (4, .volume "" "/data")] lines := by
  obtain ⟨pod, seed, hPod, hMem, hName, -⟩ := exists_crowdedSeed
  have hBreaks : ∀ m ∈ crowdedSpec.mounts, AllChars (· ≠ '\n') m := by
    simp [crowdedSpec, AllChars, Mount.volume]
  obtain ⟨script, lines, hArgs, hLines, hRead⟩ := seedLines_read_iff hPod hMem hName hBreaks
  exact ⟨pod, seed, script, lines, hPod, hMem, hName, hBreaks, hArgs, hLines, hRead⟩

/-- A specification with a volume whose target has a space in it. -/
def spacedSpec : RunSpec := { plainSpec with mounts := [.volume "docs" "/my docs"] }

/-- The line of the volume is not read as its copy: the shell finds two paths in the target. -/
theorem spacedPod_copies_elsewhere : (∀ m ∈ spacedSpec.mounts, AllChars (· ≠ '\n') m) ∧
    ∃ pod, (workspacePod ⟨{}, "team"⟩ ⟨"notes"⟩ spacedSpec none true {}).outcome = .ok pod ∧
      ∃ seed ∈ Readiness.declaredInits pod, seed.name = initContainerName ∧
        ∃ script line, seed.args = some ["-c", script] ∧ split '\n' script = [line, ""] ∧
          Shell.fields line = ["cp", "-a", "/my", "docs/.", "/devpod/docs/", "||", "true"] ∧
          copyWords (claimMount 1 (.volume "docs" "/my docs")) =
            ["cp", "-a", "/my docs/.", "/devpod/docs/", "||", "true"] := by
  refine ⟨by simp [spacedSpec, AllChars, Mount.volume], _, rfl, _, List.mem_singleton_self _, rfl, _,
    "cp -a /my docs/. /devpod/docs/ || true", rfl, ?_, ?_, ?_⟩ <;> decide +kernel

end PodWorkspace.Manifest
