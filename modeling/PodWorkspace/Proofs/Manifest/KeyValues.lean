import PodWorkspace.Manifest.KeyValues
import PodWorkspace.Proofs.Dict
import PodWorkspace.Proofs.Text.Blank

/-! What a list of keys and values says, by its pieces between the commas. A list can be read when each
piece is blank or a pair, which has an equals sign with a key before it. A key has the value of the last
piece that gives it one. The first piece that is neither blank nor a pair is blamed. -/

namespace PodWorkspace

namespace Manifest

variable {piece key value : String} {pieces : List String} {entries : List (String × String)}
  {fault : EntryFault}

/-! ### Single pieces -/

/-- A piece gives a value to a key: the key stands before its first equals sign and the value after it,
both with white space around them that does not count. -/
def Assigns (piece key value : String) : Prop :=
  ∃ front rest, piece = front ++ "=" ++ rest ∧ '=' ∉ front.toList ∧ Text.trim front = key ∧
    Text.trim rest = value

/-- The piece has a key that is not blank before its first equals sign. -/
def IsPair (piece : String) : Prop := ∃ key value, Assigns piece key value ∧ key ≠ ""

/-- What is wrong with a piece that is not a pair. -/
inductive Spoils (piece : String) : EntryFault → Prop
  | notAPair (hNone : '=' ∉ piece.toList) : Spoils piece (.notAPair (Text.trim piece))
  | emptyKey {rest : String} (hAssigns : Assigns piece "" rest) : Spoils piece (.emptyKey (Text.trim piece))

theorem assigns_iff_cut : Assigns piece key value ↔
    ∃ front rest, Text.cut '=' piece = some (front, rest) ∧ Text.trim front = key ∧
      Text.trim rest = value := by
  simp only [Assigns, Text.cut_eq_some_iff, and_assoc]
  rfl

theorem Assigns.unique {key' value' : String} (h : Assigns piece key value)
    (h' : Assigns piece key' value') : key = key' ∧ value = value' := by
  obtain ⟨front, rest, hCut, rfl, rfl⟩ := assigns_iff_cut.1 h
  obtain ⟨front', rest', hCut', rfl, rfl⟩ := assigns_iff_cut.1 h'
  rw [hCut] at hCut'
  cases hCut'
  exact ⟨rfl, rfl⟩

/-- What an entry says does not depend on the white space around it. -/
theorem entryPair_trim (piece : String) : entryPair (Text.trim piece) =
    match Text.cut '=' piece with
    | none => .error (.notAPair (Text.trim piece))
    | some (front, rest) =>
      if Text.trim front = "" then .error (.emptyKey (Text.trim piece))
      else .ok (Text.trim front, Text.trim rest) := by
  cases hCut : Text.cut '=' piece with
  | none =>
    have hNone : '=' ∉ (Text.trim piece).toList := by
      rw [Text.trim, String.toList_ofList]
      exact Text.not_mem_trimChars (Text.cut_eq_none_iff.1 hCut)
    rw [entryPair, Text.cut_eq_none_iff.2 hNone]
  | some halves =>
    obtain ⟨front, rest, hTrimmed, hFront, hRest⟩ := Text.cut_trim (by decide) hCut
    rw [entryPair, hTrimmed]
    dsimp only
    rw [hFront, hRest]

theorem entryPair_trim_eq_ok_iff : entryPair (Text.trim piece) = .ok (key, value) ↔
    Assigns piece key value ∧ key ≠ "" := by
  rw [entryPair_trim, assigns_iff_cut]
  cases hCut : Text.cut '=' piece with
  | none => simp
  | some halves =>
    obtain ⟨front, rest⟩ := halves
    dsimp only
    split
    · rename_i hEmpty
      constructor
      · nofun
      · rintro ⟨⟨_, _, ⟨⟩, rfl, -⟩, hKey⟩
        exact absurd hEmpty hKey
    · rename_i hKey
      constructor
      · intro h
        cases h
        exact ⟨⟨front, rest, rfl, rfl, rfl⟩, hKey⟩
      · rintro ⟨⟨_, _, ⟨⟩, rfl, rfl⟩, -⟩
        rfl

theorem entryPair_trim_eq_error_iff : entryPair (Text.trim piece) = .error fault ↔
    Spoils piece fault := by
  rw [entryPair_trim]
  constructor
  · intro h
    split at h
    · rename_i hCut
      cases h
      exact .notAPair (Text.cut_eq_none_iff.1 hCut)
    · rename_i front rest hCut
      split at h
      · rename_i hEmpty
        cases h
        exact .emptyKey (assigns_iff_cut.2 ⟨front, rest, hCut, hEmpty, rfl⟩)
      · cases h
  · intro h
    cases h with
    | notAPair hNone => rw [Text.cut_eq_none_iff.2 hNone]
    | emptyKey hAssigns =>
      obtain ⟨front, rest, hCut, hEmpty, -⟩ := assigns_iff_cut.1 hAssigns
      rw [hCut]
      exact if_pos hEmpty

/-- A blank piece has no equals sign, so it gives no value. -/
theorem Assigns.not_isAllBlank (h : Assigns piece key value) : Text.isAllBlank piece = false := by
  obtain ⟨front, rest, rfl, -, -⟩ := h
  rw [← Bool.not_eq_true, Text.isAllBlank, List.all_eq_true]
  intro hBlank
  have hSign : Text.isBlank '=' = true := hBlank '=' (by simp)
  cases hSign

/-! ### Pieces one after the other -/

/-- The entries of pieces, in their order. A blank piece has none. -/
def readPieces (pieces : List String) : Except EntryFault (List (String × String)) :=
  ((pieces.map Text.trim).filter (· != "")).mapM entryPair

theorem keyValues_eq (raw : String) :
    keyValues raw = (readPieces (Text.split ',' raw)).map Dict.ofList := by
  rw [keyValues, listEntries, ← readPieces]
  cases readPieces (Text.split ',' raw) <;> rfl

theorem readPieces_blank (h : Text.isAllBlank piece = true) :
    readPieces (piece :: pieces) = readPieces pieces := by
  simp [readPieces, Text.trim_eq_empty_iff.2 h]

theorem readPieces_cons (h : Text.isAllBlank piece = false) :
    readPieces (piece :: pieces) = (do
      let entry ← entryPair (Text.trim piece)
      let others ← readPieces pieces
      return entry :: others) := by
  have hSays : Text.trim piece ≠ "" := by simp [Text.trim_eq_empty_iff, h]
  rw [readPieces, List.map_cons, List.filter_cons_of_pos (by simpa using hSays), List.mapM_cons]
  rfl

/-- The entries that pieces have, when each of them is blank or a pair. -/
inductive Reads : List String → List (String × String) → Prop
  | nil : Reads [] []
  | blank {piece : String} {pieces : List String} {entries : List (String × String)}
      (hBlank : Text.isAllBlank piece = true) (hRest : Reads pieces entries) :
      Reads (piece :: pieces) entries
  | pair {piece key value : String} {pieces : List String} {entries : List (String × String)}
      (hAssigns : Assigns piece key value) (hKey : key ≠ "") (hRest : Reads pieces entries) :
      Reads (piece :: pieces) ((key, value) :: entries)

theorem readPieces_eq_ok_iff : readPieces pieces = .ok entries ↔ Reads pieces entries := by
  constructor
  · intro h
    induction pieces generalizing entries with
    | nil =>
      cases h
      exact .nil
    | cons piece pieces ih =>
      cases hBlank : Text.isAllBlank piece with
      | true =>
        rw [readPieces_blank hBlank] at h
        exact .blank hBlank (ih h)
      | false =>
        rw [readPieces_cons hBlank] at h
        cases hEntry : entryPair (Text.trim piece) with
        | error fault => simp [hEntry, bind, Except.bind] at h
        | ok entry =>
          cases hOthers : readPieces pieces with
          | error fault => simp [hEntry, hOthers, bind, Except.bind] at h
          | ok others =>
            simp only [hEntry, hOthers, bind, Except.bind, pure, Except.pure, Except.ok.injEq] at h
            subst h
            obtain ⟨hAssigns, hKey⟩ := entryPair_trim_eq_ok_iff.1 hEntry
            exact .pair hAssigns hKey (ih hOthers)
  · intro h
    induction h with
    | nil => rfl
    | blank hBlank _ ih => rw [readPieces_blank hBlank, ih]
    | pair hAssigns hKey _ ih =>
      rw [readPieces_cons hAssigns.not_isAllBlank, entryPair_trim_eq_ok_iff.2 ⟨hAssigns, hKey⟩, ih]
      rfl

/-- The first piece that is neither blank nor a pair, and what is wrong with it. -/
def FailsFirst (pieces : List String) (fault : EntryFault) : Prop :=
  ∃ before piece after, pieces = before ++ piece :: after ∧
    (∀ earlier ∈ before, Text.isAllBlank earlier = false → IsPair earlier) ∧
    Text.isAllBlank piece = false ∧ Spoils piece fault

theorem readPieces_eq_error_iff : readPieces pieces = .error fault ↔ FailsFirst pieces fault := by
  constructor
  · intro h
    induction pieces with
    | nil => cases h
    | cons piece pieces ih =>
      cases hBlank : Text.isAllBlank piece with
      | true =>
        rw [readPieces_blank hBlank] at h
        obtain ⟨before, worst, after, rfl, hBefore, hWorst⟩ := ih h
        refine ⟨piece :: before, worst, after, rfl, ?_, hWorst⟩
        exact List.forall_mem_cons.2 ⟨by simp [hBlank], hBefore⟩
      | false =>
        rw [readPieces_cons hBlank] at h
        cases hEntry : entryPair (Text.trim piece) with
        | error worst =>
          obtain rfl : worst = fault := by simpa [hEntry, bind, Except.bind] using h
          exact ⟨[], piece, pieces, rfl, nofun, hBlank, entryPair_trim_eq_error_iff.1 hEntry⟩
        | ok entry =>
          have hPair : IsPair piece := ⟨entry.1, entry.2, entryPair_trim_eq_ok_iff.1 hEntry⟩
          cases hOthers : readPieces pieces with
          | ok others => simp [hEntry, hOthers, bind, Except.bind, pure, Except.pure] at h
          | error worst =>
            obtain rfl : worst = fault := by simpa [hEntry, hOthers, bind, Except.bind] using h
            obtain ⟨before, worst, after, rfl, hBefore, hWorst⟩ := ih hOthers
            refine ⟨piece :: before, worst, after, rfl, ?_, hWorst⟩
            exact List.forall_mem_cons.2 ⟨fun _ => hPair, hBefore⟩
  · rintro ⟨before, piece, after, rfl, hBefore, hBlank, hSpoils⟩
    induction before with
    | nil =>
      rw [List.nil_append, readPieces_cons hBlank, entryPair_trim_eq_error_iff.2 hSpoils]
      rfl
    | cons earlier before ih =>
      obtain ⟨hEarlier, hBefore⟩ := List.forall_mem_cons.1 hBefore
      cases hSays : Text.isAllBlank earlier with
      | true => rw [List.cons_append, readPieces_blank hSays, ih hBefore]
      | false =>
        obtain ⟨key, value, hPair⟩ := hEarlier hSays
        rw [List.cons_append, readPieces_cons hSays, entryPair_trim_eq_ok_iff.2 hPair, ih hBefore]
        rfl

theorem exists_reads_iff : (∃ entries, Reads pieces entries) ↔
    ∀ piece ∈ pieces, Text.isAllBlank piece = false → IsPair piece := by
  constructor
  · rintro ⟨entries, hReads⟩
    induction hReads with
    | nil => simp
    | blank hBlank _ ih => exact List.forall_mem_cons.2 ⟨by simp [hBlank], ih⟩
    | pair hAssigns hKey _ ih => exact List.forall_mem_cons.2 ⟨fun _ => ⟨_, _, hAssigns, hKey⟩, ih⟩
  · intro h
    induction pieces with
    | nil => exact ⟨[], .nil⟩
    | cons piece pieces ih =>
      obtain ⟨hPiece, hPieces⟩ := List.forall_mem_cons.1 h
      obtain ⟨entries, hReads⟩ := ih hPieces
      cases hBlank : Text.isAllBlank piece with
      | true => exact ⟨entries, .blank hBlank hReads⟩
      | false =>
        obtain ⟨key, value, hAssigns, hKey⟩ := hPiece hBlank
        exact ⟨_, .pair hAssigns hKey hReads⟩

/-! ### The value of a key -/

/-- The last piece that gives a value to a key gives it this one. -/
def GivesLast (pieces : List String) (key value : String) : Prop :=
  ∃ before piece after, pieces = before ++ piece :: after ∧ Assigns piece key value ∧
    ∀ later ∈ after, ∀ other, ¬Assigns later key other

theorem givesLast_cons : GivesLast (piece :: pieces) key value ↔
    GivesLast pieces key value ∨
      Assigns piece key value ∧ ∀ later ∈ pieces, ∀ other, ¬Assigns later key other := by
  constructor
  · rintro ⟨before, last, after, hPieces, hAssigns, hAfter⟩
    cases before with
    | nil =>
      obtain ⟨rfl, rfl⟩ := List.cons.inj hPieces
      exact .inr ⟨hAssigns, hAfter⟩
    | cons first before =>
      obtain ⟨rfl, rfl⟩ := List.cons.inj hPieces
      exact .inl ⟨before, last, after, rfl, hAssigns, hAfter⟩
  · rintro (⟨before, last, after, rfl, hAssigns, hAfter⟩ | ⟨hAssigns, hAfter⟩)
    · exact ⟨piece :: before, last, after, rfl, hAssigns, hAfter⟩
    · exact ⟨[], piece, pieces, rfl, hAssigns, hAfter⟩

theorem exists_givesLast_iff : (∃ value, GivesLast pieces key value) ↔
    ∃ piece ∈ pieces, ∃ value, Assigns piece key value := by
  constructor
  · rintro ⟨value, before, piece, after, rfl, hAssigns, -⟩
    exact ⟨piece, by simp, value, hAssigns⟩
  · intro h
    induction pieces with
    | nil => simp at h
    | cons piece pieces ih =>
      by_cases hLater : ∃ later ∈ pieces, ∃ value, Assigns later key value
      · obtain ⟨value, hLast⟩ := ih hLater
        exact ⟨value, givesLast_cons.2 (.inl hLast)⟩
      · obtain ⟨last, hMem, value, hAssigns⟩ := h
        obtain rfl | hMem := List.mem_cons.1 hMem
        · refine ⟨value, givesLast_cons.2 (.inr ⟨hAssigns, fun later hMem other hOther => ?_⟩)⟩
          exact hLater ⟨later, hMem, other, hOther⟩
        · exact absurd ⟨last, hMem, value, hAssigns⟩ hLater

/-- The last entry with a key comes from the last piece that gives the key a value. -/
theorem Reads.lookup_reverse (h : Reads pieces entries) :
    entries.reverse.lookup key = some value ↔ GivesLast pieces key value := by
  induction h generalizing value with
  | nil =>
    refine iff_of_false nofun ?_
    rintro ⟨before, piece, after, hPieces, -⟩
    simp at hPieces
  | @blank piece pieces entries hBlank _ ih =>
    have hNone : ¬Assigns piece key value := fun hAssigns => by
      simp [hAssigns.not_isAllBlank] at hBlank
    rw [ih, givesLast_cons]
    simp [hNone]
  | @pair piece k v pieces entries hAssigns hKey _ ih =>
    have hFirst : Assigns piece key value ↔ key = k ∧ value = v :=
      ⟨fun hOther => hOther.unique hAssigns, by rintro ⟨rfl, rfl⟩; exact hAssigns⟩
    have hLater : (∃ value, entries.reverse.lookup key = some value) ↔
        ∃ later ∈ pieces, ∃ other, Assigns later key other := by
      rw [← exists_givesLast_iff]
      exact exists_congr fun _ => ih
    rw [List.reverse_cons, List.lookup_append, givesLast_cons, ← ih, hFirst]
    cases hFound : entries.reverse.lookup key with
    | some found =>
      obtain ⟨later, hMem, other, hOther⟩ := hLater.1 ⟨found, hFound⟩
      have hNotLast : ¬∀ later ∈ pieces, ∀ other, ¬Assigns later key other :=
        fun hNone => hNone later hMem other hOther
      simp [hNotLast]
    | none =>
      have hLast : ∀ later ∈ pieces, ∀ other, ¬Assigns later key other := by
        intro later hMem other hOther
        obtain ⟨found, hSome⟩ := hLater.2 ⟨later, hMem, other, hOther⟩
        simp [hFound] at hSome
      rw [Option.none_or, Dict.lookup_cons_eq_ite, and_iff_left hLast]
      by_cases hSame : key = k
      · simp [hSame, eq_comm]
      · simp [hSame]

/-! ### Whole lists -/

theorem parseKeyValues_eq (option raw : String) : parseKeyValues option raw =
    match readPieces (Text.split ',' raw) with
    | .ok entries => .ok (.ofList entries)
    | .error fault => .error (.configuration option fault.message) := by
  rw [parseKeyValues, keyValues_eq]
  cases readPieces (Text.split ',' raw) <;> rfl

/-- A list of keys and values is read by its pieces: it can be read when each of them is blank or a pair,
a key has the value of the last piece that gives it one, and else the first piece that is at fault is
named. -/
theorem parseKeyValues_by_pieces (option raw : String) : ∃ pieces, Text.ArePieces ',' raw pieces ∧
    ((∃ d, parseKeyValues option raw = .ok d) ↔
      ∀ piece ∈ pieces, Text.isAllBlank piece = false → IsPair piece) ∧
    (∀ d, parseKeyValues option raw = .ok d → ∀ key,
      (key ∈ d.keys ↔ ∃ piece ∈ pieces, ∃ value, Assigns piece key value) ∧
      ∀ value, d.get? key = some value ↔ GivesLast pieces key value) ∧
    ∀ f, parseKeyValues option raw = .error f ↔
      ∃ fault, FailsFirst pieces fault ∧ f = .configuration option fault.message := by
  refine ⟨Text.split ',' raw, Text.arePieces_split ',' raw, ?_, ?_, ?_⟩
  all_goals rw [parseKeyValues_eq]
  · rw [← exists_reads_iff]
    simp only [← readPieces_eq_ok_iff]
    cases readPieces (Text.split ',' raw) <;> simp
  · intro d hRead key
    cases hPieces : readPieces (Text.split ',' raw) with
    | error fault => simp [hPieces] at hRead
    | ok entries =>
      obtain rfl : Dict.ofList entries = d := by simpa [hPieces] using hRead
      have hReads := readPieces_eq_ok_iff.1 hPieces
      have hGet (value : String) : (Dict.ofList entries).get? key = some value ↔
          GivesLast (Text.split ',' raw) key value := by
        rw [Dict.get?_ofList, hReads.lookup_reverse]
      refine ⟨?_, hGet⟩
      rw [Dict.mem_keys, Option.isSome_iff_exists, ← exists_givesLast_iff]
      exact exists_congr hGet
  · intro f
    simp only [← readPieces_eq_error_iff]
    cases readPieces (Text.split ',' raw) <;> simp [eq_comm]

/-- Blank pieces are skipped, a value goes on to the comma, and the last one counts. Of two faults the
first is named. -/
theorem parseKeyValues_by_pieces_of_teams :
    (∃ d pieces, parseKeyValues "LABELS" "team=dev , ,tier=a=b,team = ops" = .ok d ∧
      Text.ArePieces ',' "team=dev , ,tier=a=b,team = ops" pieces ∧
      d.get? "team" = some "ops" ∧ GivesLast pieces "team" "ops") ∧
    ∃ pieces fault, Text.ArePieces ',' "team=dev, tier ,=ops" pieces ∧ FailsFirst pieces fault ∧
      fault.message = "entry 'tier' is not in key=value form" := by
  constructor
  · obtain ⟨pieces, hPieces, -, hRead, -⟩ :=
      parseKeyValues_by_pieces "LABELS" "team=dev , ,tier=a=b,team = ops"
    have hOk : parseKeyValues "LABELS" "team=dev , ,tier=a=b,team = ops" =
        .ok (.ofList [("team", "ops"), ("tier", "a=b")]) := by decide +kernel
    have hTeam : (Dict.ofList [("team", "ops"), ("tier", "a=b")]).get? "team" = some "ops" := by
      decide +kernel
    exact ⟨_, pieces, hOk, hPieces, hTeam, ((hRead _ hOk "team").2 "ops").1 hTeam⟩
  · obtain ⟨pieces, hPieces, -, -, hFail⟩ := parseKeyValues_by_pieces "LABELS" "team=dev, tier ,=ops"
    have hError : parseKeyValues "LABELS" "team=dev, tier ,=ops" =
        .error (.configuration "LABELS" "entry 'tier' is not in key=value form") := by decide +kernel
    obtain ⟨fault, hFirst, hMessage⟩ := (hFail _).1 hError
    exact ⟨pieces, fault, hPieces, hFirst, (Failure.configuration.inj hMessage).2.symm⟩

end Manifest

end PodWorkspace
