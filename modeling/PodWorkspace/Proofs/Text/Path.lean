import Mathlib.Data.List.Basic
import PodWorkspace.Proofs.Text.Split
import PodWorkspace.Text.Path

/-! Paths that mean the same, and paths below others. Two paths have the same parts exactly when they
differ in nothing but repeated slashes, slashes at the end and dots after a slash, and the parts of a path
begin with those of another one exactly when a relative path leads from that one to it. -/

namespace PodWorkspace.Text

variable {s a b front rest path directory : String} {ps : List PathPart}

/-! ### Paths that mean the same -/

/-- Paths that differ only in repeated slashes, slashes at the end and dots after a slash. -/
inductive SamePath : String → String → Prop
  | slashes (front rest : String) : SamePath (front ++ "//" ++ rest) (front ++ "/" ++ rest)
  | dot (front rest : String) : SamePath (front ++ "/./" ++ rest) (front ++ "/" ++ rest)
  | lastDot (front : String) : SamePath (front ++ "/.") (front ++ "/")
  | lastSlash {front : String} (hSome : front ≠ "") : SamePath (front ++ "/") front
  | refl (path : String) : SamePath path path
  | symm {a b : String} (h : SamePath a b) : SamePath b a
  | trans {a b c : String} (h : SamePath a b) (h' : SamePath b c) : SamePath a c

/-! ### Parts -/

/-- Whether a piece of a path that follows a slash says something. -/
def isTelling (p : String) : Bool := p != "" && p != "."

def tellingPieces (s : String) : List String := (split '/' s).filter isTelling

/-- The part for a piece that says something. -/
def part (p : String) : PathPart := if p = ".." then .up else .name p.toList

/-- The part for what stands before the first slash of a path. -/
def firstPart (p : String) : PathPart :=
  if p = "" then .root else if p = "." then .here else part p

/-- The piece that a part stands for. -/
def PathPart.text : PathPart → String
  | .root => ""
  | .here => "."
  | .up => ".."
  | .name s => String.ofList s

theorem namedParts_map_toList (ps : List String) :
    namedParts (ps.map String.toList) = (ps.filter isTelling).map part := by
  have hText (p : String) (cs : List Char) : (p.toList = cs) = (p = String.ofList cs) := by
    rw [← String.toList_inj, String.toList_ofList]
  simp only [namedParts, List.filter_map, List.map_map, Function.comp_def, bne, beq_eq_decide, hText]
  rfl

theorem namedParts_pieces (s : String) :
    namedParts (pieces '/' s.toList) = (tellingPieces s).map part := by
  have hPieces : pieces '/' s.toList = (split '/' s).map String.toList := by
    simp [split, Function.comp_def]
  rw [hPieces, namedParts_map_toList, tellingPieces]

theorem namedParts_cons (hSome : front ≠ "") (hDot : front ≠ ".") (others : List (List Char)) :
    namedParts (front.toList :: others) = part front :: namedParts others := by
  have hDotChars : front.toList ≠ ['.'] := fun h => hDot (String.toList_inj.1 h)
  have hUp : front.toList = ['.', '.'] ↔ front = ".." := by
    rw [← String.toList_inj]
    rfl
  simp [namedParts, hSome, hDotChars, part, hUp]

/-- The parts of a path that does not begin with a slash, by its first piece. -/
theorem pathParts_of_pieces {others : List (List Char)} (hSome : front ≠ "")
    (hPieces : pieces '/' path.toList = front.toList :: others) :
    pathParts path = firstPart front :: namedParts others := by
  unfold pathParts
  split
  · rename_i rest hSlash
    have hEmpty : pieces '/' path.toList = [] :: pieces '/' rest := by simp [hSlash, pieces]
    have hNone : front.toList = [] := (List.cons.inj (hPieces.symm.trans hEmpty)).1
    exact absurd (String.toList_eq_nil_iff.1 hNone) hSome
  · rw [hPieces, firstPart, if_neg hSome]
    split
    · rename_i rest hDot
      obtain ⟨hChars, rfl⟩ := List.cons.inj hDot
      have hDot : front = "." := String.toList_inj.1 hChars
      rw [if_pos hDot]
    · rename_i hOther
      have hDot : front ≠ "." := fun hDot => hOther others (by rw [hDot]; rfl)
      rw [if_neg hDot, namedParts_cons hSome hDot]

/-- The parts of a path with a slash, by what stands before and after the first one. -/
theorem pathParts_append (hFront : '/' ∉ front.toList) (rest : String) :
    pathParts (front ++ "/" ++ rest) = firstPart front :: (tellingPieces rest).map part := by
  have hChars : (front ++ "/" ++ rest).toList = front.toList ++ '/' :: rest.toList := by simp
  rw [← namedParts_pieces]
  by_cases hEmpty : front = ""
  · subst hEmpty
    rw [pathParts, hChars]
    rfl
  · exact pathParts_of_pieces hEmpty (by rw [hChars, pieces_append hFront])

/-- The parts of a path without a slash. -/
theorem pathParts_of_not_mem (hSome : path ≠ "") (hPath : '/' ∉ path.toList) :
    pathParts path = [firstPart path] :=
  pathParts_of_pieces hSome (pieces_of_not_mem hPath)

theorem exists_front_of_mem (h : '/' ∈ path.toList) :
    ∃ front rest, path = front ++ "/" ++ rest ∧ '/' ∉ front.toList := by
  cases hCut : cut '/' path with
  | none => exact absurd h (cut_eq_none_iff.1 hCut)
  | some halves => exact ⟨halves.1, halves.2, cut_eq_some_iff.1 hCut⟩

@[simp] theorem tellingPieces_empty : tellingPieces "" = [] := by decide

@[simp] theorem tellingPieces_append (a b : String) :
    tellingPieces (a ++ "/" ++ b) = tellingPieces a ++ tellingPieces b := by
  have hChars : (a ++ "/" ++ b).toList = a.toList ++ '/' :: b.toList := by simp
  rw [tellingPieces, split, hChars, pieces_append_cons, List.map_append, List.filter_append]
  rfl

@[simp] theorem tellingPieces_slash (a : String) : tellingPieces (a ++ "/") = tellingPieces a := by
  simpa using tellingPieces_append a ""

theorem pathParts_front_slash (hFront : '/' ∉ front.toList) :
    pathParts (front ++ "/") = [firstPart front] := by
  simpa using pathParts_append hFront ""

/-- What follows a slash adds its parts to those of what ends with the slash. -/
theorem pathParts_append_slash (front rest : String) :
    pathParts (front ++ "/" ++ rest) = pathParts (front ++ "/") ++ (tellingPieces rest).map part := by
  by_cases hSlash : '/' ∈ front.toList
  · obtain ⟨first, more, rfl, hFirst⟩ := exists_front_of_mem hSlash
    have hLeft := pathParts_append hFirst (more ++ "/" ++ rest)
    have hRight := pathParts_append hFirst (more ++ "/")
    simp only [← String.append_assoc] at hLeft hRight
    simp [hLeft, hRight]
  · rw [pathParts_append hSlash, pathParts_front_slash hSlash]
    rfl

/-- A slash at the end says nothing, unless there is nothing before it. -/
theorem pathParts_slash (hSome : front ≠ "") : pathParts (front ++ "/") = pathParts front := by
  by_cases hSlash : '/' ∈ front.toList
  · obtain ⟨first, more, rfl, hFirst⟩ := exists_front_of_mem hSlash
    have hLeft := pathParts_append hFirst (more ++ "/")
    rw [← String.append_assoc] at hLeft
    rw [hLeft, pathParts_append hFirst, tellingPieces_slash]
  · rw [pathParts_front_slash hSlash, pathParts_of_not_mem hSome hSlash]

/-! ### Paths with the same parts -/

/-- A piece between slashes that says nothing may be left out. -/
theorem pathParts_of_silent {silent : String} (hSilent : tellingPieces silent = []) (front rest : String) :
    pathParts (front ++ "/" ++ (silent ++ "/" ++ rest)) = pathParts (front ++ "/" ++ rest) := by
  rw [pathParts_append_slash, tellingPieces_append, hSilent, List.nil_append, ← pathParts_append_slash]

theorem SamePath.pathParts_eq (h : SamePath a b) : pathParts a = pathParts b := by
  induction h with
  | slashes front rest =>
    have hWhole : front ++ "//" ++ rest = front ++ "/" ++ ("" ++ "/" ++ rest) := by
      simp [← String.toList_inj]
    rw [hWhole, pathParts_of_silent (by decide)]
  | dot front rest =>
    have hWhole : front ++ "/./" ++ rest = front ++ "/" ++ ("." ++ "/" ++ rest) := by
      simp [← String.toList_inj]
    rw [hWhole, pathParts_of_silent (by decide)]
  | lastDot front =>
    have hWhole : front ++ "/." = front ++ "/" ++ "." := by simp [← String.toList_inj]
    have hSilent : tellingPieces "." = [] := by decide
    rw [hWhole, pathParts_append_slash, hSilent, List.map_nil, List.append_nil]
  | lastSlash hSome => exact pathParts_slash hSome
  | refl => rfl
  | symm _ ih => exact ih.symm
  | trans _ _ ih ih' => exact ih.trans ih'

theorem samePath_silent {silent : String} (h : silent = "" ∨ silent = ".") (front rest : String) :
    SamePath (front ++ "/" ++ silent ++ "/" ++ rest) (front ++ "/" ++ rest) := by
  rcases h with rfl | rfl
  · have hWhole : front ++ "/" ++ "" ++ "/" ++ rest = front ++ "//" ++ rest := by
      simp [← String.toList_inj]
    exact hWhole ▸ .slashes front rest
  · have hWhole : front ++ "/" ++ "." ++ "/" ++ rest = front ++ "/./" ++ rest := by
      simp [← String.toList_inj]
    exact hWhole ▸ .dot front rest

theorem samePath_join_cons (front piece : String) (others : List String) :
    SamePath (front ++ "/" ++ join "/" (piece :: others))
      (front ++ "/" ++ piece ++ "/" ++ join "/" others) := by
  cases others with
  | nil =>
    have hSome : front ++ "/" ++ piece ≠ "" := fun hNone => by
      simpa using congrArg String.toList hNone
    rw [join, join, String.append_empty]
    exact (SamePath.lastSlash hSome).symm
  | cons next others =>
    have hWhole : front ++ "/" ++ join "/" (piece :: next :: others) =
        front ++ "/" ++ piece ++ "/" ++ join "/" (next :: others) := by
      simp [join_cons_cons, String.append_assoc]
    exact hWhole ▸ .refl _

/-- What follows a slash may be cut down to the pieces that say something. -/
theorem samePath_join (parts : List String) (front : String) :
    SamePath (front ++ "/" ++ join "/" parts) (front ++ "/" ++ join "/" (parts.filter isTelling)) := by
  induction parts generalizing front with
  | nil => exact .refl _
  | cons p parts ih =>
    refine (samePath_join_cons front p parts).trans ?_
    by_cases hSilent : p = "" ∨ p = "."
    · have hLeft : ¬isTelling p = true := by rcases hSilent with rfl | rfl <;> decide
      rw [List.filter_cons_of_neg hLeft]
      exact (samePath_silent hSilent front _).trans (ih front)
    · have hKept : isTelling p = true := by simpa [isTelling] using hSilent
      rw [List.filter_cons_of_pos hKept]
      exact (ih (front ++ "/" ++ p)).trans (samePath_join_cons front p _).symm

/-- A path that is not empty is the same as its first piece with the pieces after it that say something. -/
theorem exists_samePath (hSome : path ≠ "") : ∃ front rest,
    SamePath path (front ++ "/" ++ join "/" (tellingPieces rest)) ∧
      pathParts path = firstPart front :: (tellingPieces rest).map part := by
  by_cases hSlash : '/' ∈ path.toList
  · obtain ⟨front, rest, rfl, hFront⟩ := exists_front_of_mem hSlash
    have hSame := samePath_join (split '/' rest) front
    have hRest : join "/" (split '/' rest) = rest := (arePieces_split '/' rest).join_eq
    rw [hRest] at hSame
    exact ⟨front, rest, hSame, pathParts_append hFront rest⟩
  · refine ⟨path, "", ?_, pathParts_of_not_mem hSome hSlash⟩
    have hNone : join "/" (tellingPieces "") = "" := by decide
    rw [hNone, String.append_empty]
    exact (SamePath.lastSlash hSome).symm

theorem text_part (p : String) : (part p).text = p := by
  unfold part
  split
  · rename_i hUp
    exact hUp.symm
  · exact String.ofList_toList

theorem text_firstPart (p : String) : (firstPart p).text = p := by
  unfold firstPart
  split
  · rename_i hEmpty
    exact hEmpty.symm
  · split
    · rename_i hDot
      exact hDot.symm
    · exact text_part p

/-- Paths have the same parts exactly when they are the same. -/
theorem samePath_iff : SamePath a b ↔ pathParts a = pathParts b := by
  refine ⟨SamePath.pathParts_eq, fun h => ?_⟩
  by_cases ha : a = ""
  · by_cases hb : b = ""
    · rw [ha, hb]
      exact .refl _
    · obtain ⟨front, rest, -, hParts⟩ := exists_samePath hb
      rw [ha, hParts] at h
      cases h
  · obtain ⟨front, rest, hSame, hParts⟩ := exists_samePath ha
    by_cases hb : b = ""
    · rw [hb, hParts] at h
      cases h
    · obtain ⟨front', rest', hSame', hParts'⟩ := exists_samePath hb
      rw [hParts, hParts', List.cons.injEq] at h
      have hFront : front = front' := by rw [← text_firstPart front, h.1, text_firstPart]
      have hRest : tellingPieces rest = tellingPieces rest' :=
        List.map_injective_iff.2 (Function.LeftInverse.injective text_part) h.2
      rw [hFront, hRest] at hSame
      exact hSame.trans hSame'.symm

instance (a b : String) : Decidable (SamePath a b) := decidable_of_iff _ samePath_iff.symm

/-- A path keeps its root, its first dot and its double dots. -/
example : SamePath "/a//b/./c/." "/a/b/c" ∧ SamePath ".//a" "./a" ∧ ¬SamePath "/a" "a" ∧
    ¬SamePath "./a" "a" ∧ ¬SamePath "/a/b/.." "/a" ∧ ¬SamePath "/" "" := by
  decide

/-! ### Paths below others -/

/-- A path that does not begin at the root. -/
def IsRelative (path : String) : Prop := path.toList.head? ≠ some '/'

/-- A directory with a relative path after it, and a slash between them unless there is one already or
nothing stands before it. -/
def joinPath (directory rest : String) : String :=
  if directory = "" ∨ directory.toList.getLast? = some '/' then directory ++ rest
  else directory ++ "/" ++ rest

theorem pathParts_joinPath (hSome : directory ≠ "") (rest : String) :
    pathParts (joinPath directory rest) = pathParts directory ++ (tellingPieces rest).map part := by
  unfold joinPath
  split
  · rename_i hSlash
    obtain ⟨cs, hChars⟩ := List.getLast?_eq_some_iff.1 (hSlash.resolve_left hSome)
    have hDirectory : directory = String.ofList cs ++ "/" := by
      rw [← String.toList_inj, hChars]
      simp
    rw [hDirectory, pathParts_append_slash]
  · rw [pathParts_append_slash, pathParts_slash hSome]

theorem isTelling_of_mem {p : String} (h : p ∈ tellingPieces s) : isTelling p = true ∧ '/' ∉ p.toList := by
  obtain ⟨hPiece, hTelling⟩ := List.mem_filter.1 h
  exact ⟨hTelling, (arePieces_split '/' s).clean p hPiece⟩

/-- Pieces that say something are found again in the path that is made of them. -/
theorem tellingPieces_join {parts : List String}
    (h : ∀ p ∈ parts, isTelling p = true ∧ '/' ∉ p.toList) : tellingPieces (join "/" parts) = parts := by
  by_cases hNone : parts = []
  · subst hNone
    decide
  · have hPieces : ArePieces '/' (join "/" parts) parts := ⟨hNone, fun p hMem => (h p hMem).2, rfl⟩
    rw [tellingPieces, hPieces.eq_split, List.filter_eq_self]
    exact fun p hMem => (h p hMem).1

theorem isRelative_join {parts : List String}
    (h : ∀ p ∈ parts, isTelling p = true ∧ '/' ∉ p.toList) : IsRelative (join "/" parts) := by
  cases parts with
  | nil => simp [IsRelative, join]
  | cons p others =>
    obtain ⟨hTelling, hSlash⟩ := h p List.mem_cons_self
    have hSome : p.toList ≠ [] := fun hNone => by
      rw [String.toList_eq_nil_iff.1 hNone] at hTelling
      cases hTelling
    have hJoin := join_append_cons "/" p "" others
    rw [String.append_empty] at hJoin
    obtain ⟨c, cs, hChars⟩ := List.exists_cons_of_ne_nil hSome
    rw [hChars, List.mem_cons, not_or] at hSlash
    simpa [IsRelative, hJoin, hChars] using Ne.symm hSlash.1

/-- A directory from which a relative path leads to a path. The empty one is above every path. -/
def IsAbove (directory path : String) : Prop :=
  directory = "" ∨ ∃ rest, IsRelative rest ∧ SamePath (joinPath directory rest) path

/-- A path lies within the directories above it. -/
theorem isWithin_iff : isWithin path directory = true ↔ IsAbove directory path := by
  rw [isWithin, List.isPrefixOf_iff_prefix]
  constructor
  · rintro ⟨ps, hParts⟩
    refine or_iff_not_imp_left.2 fun hSome => ?_
    obtain ⟨front, more, -, hDirectory⟩ := exists_samePath hSome
    have hPath : path ≠ "" := by
      rintro rfl
      rw [hDirectory] at hParts
      cases hParts
    obtain ⟨front', more', -, hWhole⟩ := exists_samePath hPath
    rw [hWhole, hDirectory, List.cons_append, List.cons.injEq] at hParts
    obtain ⟨_, rest, hMore, -, hRest⟩ := List.map_eq_append_iff.1 hParts.2.symm
    have hTelling : ∀ p ∈ rest, isTelling p = true ∧ '/' ∉ p.toList := fun p hMem =>
      isTelling_of_mem (hMore ▸ List.mem_append_right _ hMem)
    refine ⟨join "/" rest, isRelative_join hTelling, samePath_iff.2 ?_⟩
    rw [pathParts_joinPath hSome, tellingPieces_join hTelling, hRest, hWhole, hDirectory, List.cons_append,
      hParts.1, hParts.2]
  · rintro (rfl | ⟨rest, -, hSame⟩)
    · exact List.nil_prefix
    · by_cases hSome : directory = ""
      · rw [hSome]
        exact List.nil_prefix
      · rw [← hSame.pathParts_eq, pathParts_joinPath hSome]
        exact List.prefix_append _ _

instance (directory path : String) : Decidable (IsAbove directory path) :=
  decidable_of_iff _ isWithin_iff

end PodWorkspace.Text
