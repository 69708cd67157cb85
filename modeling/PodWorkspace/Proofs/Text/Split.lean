import Mathlib.Data.List.TakeWhile
import PodWorkspace.Text.Split

/-! The laws of cutting: a text is cut where its front ends, when that front has no separator, and at
all separators it is cut into pieces in one way only. A front is taken off the texts that begin with
it, and a scan takes characters off as long as they have a property. -/

namespace PodWorkspace.Text

theorem cutChars_append {sep : Char} {front : List Char} (h : sep ∉ front) (rest : List Char) :
    cutChars sep (front ++ sep :: rest) = some (front, rest) := by
  induction front with
  | nil => simp [cutChars]
  | cons c front ih =>
    rw [List.mem_cons, not_or] at h
    rw [List.cons_append, cutChars, if_neg (Ne.symm h.1), ih h.2]
    rfl

/-- A text is cut where its front ends, when that holds no separator. -/
theorem cut_append {sep : Char} {front : String} (h : sep ∉ front.toList) (rest : String) :
    cut sep (front ++ sep.toString ++ rest) = some (front, rest) := by
  simp [cut, cutChars_append h]

theorem cutChars_eq_none_iff {sep : Char} {cs : List Char} : cutChars sep cs = none ↔ sep ∉ cs := by
  induction cs with
  | nil => simp [cutChars]
  | cons c cs ih =>
    by_cases hSep : c = sep
    · simp [cutChars, hSep]
    · simp [cutChars, hSep, Ne.symm hSep, ih]

/-- A text without the separator cannot be cut, and any other one is cut where that comes first. -/
theorem cutChars_eq_some_iff {sep : Char} {cs front rest : List Char} :
    cutChars sep cs = some (front, rest) ↔ cs = front ++ sep :: rest ∧ sep ∉ front := by
  constructor
  · intro h
    induction cs generalizing front with
    | nil => cases h
    | cons c cs ih =>
      by_cases hSep : c = sep
      · obtain ⟨rfl, rfl⟩ : [] = front ∧ cs = rest := by simpa [cutChars, hSep] using h
        simp [hSep]
      · rw [cutChars, if_neg hSep] at h
        obtain ⟨⟨inner, _⟩, hCut, hHalves⟩ := Option.map_eq_some_iff.1 h
        obtain ⟨rfl, rfl⟩ := Prod.mk.inj hHalves
        obtain ⟨rfl, hInner⟩ := ih hCut
        simp [hInner, Ne.symm hSep]
  · rintro ⟨rfl, hFront⟩
    exact cutChars_append hFront rest

theorem cut_eq_none_iff {sep : Char} {s : String} : cut sep s = none ↔ sep ∉ s.toList := by
  rw [cut, Option.map_eq_none_iff, cutChars_eq_none_iff]

theorem cut_eq_some_iff {sep : Char} {s front rest : String} :
    cut sep s = some (front, rest) ↔ s = front ++ sep.toString ++ rest ∧ sep ∉ front.toList := by
  constructor
  · intro h
    obtain ⟨⟨cs, ds⟩, hCut, hHalves⟩ := Option.map_eq_some_iff.1 h
    obtain ⟨rfl, rfl⟩ := Prod.mk.inj hHalves
    obtain ⟨hChars, hFront⟩ := cutChars_eq_some_iff.1 hCut
    refine ⟨?_, by simpa using hFront⟩
    rw [← String.toList_inj, hChars]
    simp
  · rintro ⟨rfl, hFront⟩
    exact cut_append hFront rest

theorem pieces_append {sep : Char} {front : List Char} (h : sep ∉ front) (rest : List Char) :
    pieces sep (front ++ sep :: rest) = front :: pieces sep rest := by
  induction front with
  | nil => simp [pieces]
  | cons c front ih =>
    rw [List.mem_cons, not_or] at h
    rw [List.cons_append, pieces, if_neg (Ne.symm h.1), ih h.2]

/-- The first piece of a text is its front, when that holds no separator. -/
theorem split_append {sep : Char} {front : String} (h : sep ∉ front.toList) (rest : String) :
    split sep (front ++ sep.toString ++ rest) = front :: split sep rest := by
  simp [split, pieces_append h]

/-- Lines that each end with a line break are the pieces between the line breaks, of which there is an
empty one at the end. -/
theorem split_lines {lines : List String} (h : ∀ line ∈ lines, '\n' ∉ line.toList) :
    split '\n' ((lines.map (· ++ "\n")).foldr (· ++ ·) "") = lines ++ [""] := by
  induction lines with
  | nil => rfl
  | cons line lines ih =>
    have hBreak : '\n'.toString = "\n" := rfl
    rw [List.map_cons, List.foldr_cons, ← hBreak, split_append (h line List.mem_cons_self), hBreak,
      ih fun l hMem => h l (List.mem_cons_of_mem _ hMem)]
    rfl

theorem pieces_ne_nil (sep : Char) (cs : List Char) : pieces sep cs ≠ [] := by
  cases cs with
  | nil => simp [pieces]
  | cons c cs =>
    rw [pieces]
    split
    · simp
    · split <;> simp

/-- The pieces of two texts with a separator between them. -/
theorem pieces_append_cons (sep : Char) (front rest : List Char) :
    pieces sep (front ++ sep :: rest) = pieces sep front ++ pieces sep rest := by
  induction front with
  | nil => simp [pieces]
  | cons c front ih =>
    obtain ⟨first, others, hPieces⟩ := List.exists_cons_of_ne_nil (pieces_ne_nil sep front)
    by_cases hSep : c = sep
    · simp [pieces, hSep, ih]
    · simp [pieces, hSep, ih, hPieces]

theorem not_mem_of_mem_pieces {sep : Char} {cs piece : List Char} (h : piece ∈ pieces sep cs) :
    sep ∉ piece := by
  induction cs generalizing piece with
  | nil =>
    obtain rfl : piece = [] := by simpa [pieces] using h
    simp
  | cons c cs ih =>
    obtain ⟨first, others, hPieces⟩ := List.exists_cons_of_ne_nil (pieces_ne_nil sep cs)
    simp only [hPieces, List.mem_cons] at ih
    by_cases hSep : c = sep
    · simp only [pieces, hSep, if_true, hPieces, List.mem_cons] at h
      obtain rfl | hMem := h
      · simp
      · exact ih hMem
    · simp only [pieces, hSep, if_false, hPieces, List.mem_cons] at h
      obtain rfl | hMem := h
      · have hFirst := ih (.inl rfl)
        simp [hFirst, Ne.symm hSep]
      · exact ih (.inr hMem)

theorem join_cons_cons (sep part next : String) (others : List String) :
    join sep (part :: next :: others) = part ++ sep ++ join sep (next :: others) := rfl

theorem join_append_cons (sep front piece : String) (others : List String) :
    join sep ((front ++ piece) :: others) = front ++ join sep (piece :: others) := by
  cases others with
  | nil => rfl
  | cons next others => simp [join, String.append_assoc]

theorem join_pieces (sep : Char) (cs : List Char) :
    join sep.toString ((pieces sep cs).map String.ofList) = String.ofList cs := by
  induction cs with
  | nil => rfl
  | cons c cs ih =>
    obtain ⟨first, others, hPieces⟩ := List.exists_cons_of_ne_nil (pieces_ne_nil sep cs)
    rw [hPieces, List.map_cons] at ih
    have hCons (ds : List Char) : String.ofList (c :: ds) = c.toString ++ String.ofList ds := by
      rw [← String.toList_inj]
      simp
    by_cases hSep : c = sep
    · have hFirst : pieces sep (c :: cs) = [] :: first :: others := by simp [pieces, hSep, hPieces]
      rw [hFirst, List.map_cons, List.map_cons, join_cons_cons, ih, hCons, hSep]
      simp
    · have hFirst : pieces sep (c :: cs) = (c :: first) :: others := by simp [pieces, hSep, hPieces]
      rw [hFirst, List.map_cons, hCons, join_append_cons, ih, hCons]

/-- The pieces of a text between the occurrences of a separator. -/
structure ArePieces (sep : Char) (s : String) (parts : List String) : Prop where
  nonempty : parts ≠ []
  clean : ∀ part ∈ parts, sep ∉ part.toList
  join_eq : join sep.toString parts = s

theorem arePieces_split (sep : Char) (s : String) : ArePieces sep s (split sep s) where
  nonempty := by simp [split, pieces_ne_nil]
  clean := by
    intro part hMem
    obtain ⟨piece, hPiece, rfl⟩ := List.mem_map.1 hMem
    simpa using not_mem_of_mem_pieces hPiece
  join_eq := by rw [split, join_pieces, String.ofList_toList]

theorem pieces_of_not_mem {sep : Char} {cs : List Char} (h : sep ∉ cs) : pieces sep cs = [cs] := by
  induction cs with
  | nil => rfl
  | cons c cs ih =>
    rw [List.mem_cons, not_or] at h
    rw [pieces, if_neg (Ne.symm h.1), ih h.2]

/-- A text has one sequence of pieces. -/
theorem ArePieces.eq_split {sep : Char} {s : String} {parts : List String}
    (h : ArePieces sep s parts) : split sep s = parts := by
  obtain ⟨hNonempty, hClean, rfl⟩ := h
  induction parts with
  | nil => exact absurd rfl hNonempty
  | cons part parts ih =>
    have hPart := hClean part List.mem_cons_self
    cases parts with
    | nil => simp [join, split, pieces_of_not_mem hPart]
    | cons next parts =>
      have hOthers := ih (by simp) fun p hMem => hClean p (List.mem_cons_of_mem _ hMem)
      rw [join_cons_cons, split_append hPart, hOthers]

/-- What is left of a text is what follows its front. -/
theorem dropFront_eq_some_iff {front cs rest : List Char} :
    dropFront front cs = some rest ↔ cs = front ++ rest := by
  induction front generalizing cs with
  | nil => simp [dropFront, eq_comm]
  | cons f front ih =>
    cases cs with
    | nil => simp [dropFront]
    | cons c cs =>
      rw [dropFront, List.cons_append, List.cons.injEq]
      by_cases hSame : f = c
      · simp [hSame, ih]
      · simp [hSame, Ne.symm hSame]

theorem stripFront_append (front rest : String) : stripFront front (front ++ rest) = some rest := by
  rw [stripFront, dropFront_eq_some_iff.2 String.toList_append]
  simp

theorem stripFront_of_not_mem {front s : String} {c : Char} (hFront : c ∈ front.toList)
    (h : c ∉ s.toList) : stripFront front s = none := by
  rw [stripFront, Option.map_eq_none_iff, Option.eq_none_iff_forall_ne_some]
  intro rest hRest
  rw [dropFront_eq_some_iff.1 hRest, List.mem_append, not_or] at h
  exact h.1 hFront

section Scan

variable {p : Char → Bool} {c : Char} {front rest : List Char}

/-- A text does not go on with a character that has a property. -/
def StopsAt (p : Char → Bool) (rest : List Char) : Prop := ∀ c ∈ rest.head?, p c = false

@[simp] theorem stopsAt_nil : StopsAt p [] := nofun

@[simp] theorem stopsAt_cons : StopsAt p (c :: rest) ↔ p c = false := by
  simp [StopsAt]

theorem stopsAt_dropWhile (p : Char → Bool) (cs : List Char) : StopsAt p (cs.dropWhile p) := by
  intro c hHead
  have hNot := List.head?_dropWhile_not p cs
  rw [Option.mem_def.1 hHead] at hNot
  exact hNot

/-- A scan takes the front of which all characters have the property. -/
theorem takeWhile_append_of_stopsAt (hFront : ∀ c ∈ front, p c = true) (hRest : StopsAt p rest) :
    (front ++ rest).takeWhile p = front := by
  rw [List.takeWhile_append_of_pos hFront]
  cases rest with
  | nil => simp
  | cons c rest => simp [stopsAt_cons.1 hRest]

/-- What a scan leaves is what follows that front. -/
theorem dropWhile_append_of_stopsAt (hFront : ∀ c ∈ front, p c = true) (hRest : StopsAt p rest) :
    (front ++ rest).dropWhile p = rest := by
  rw [List.dropWhile_append_of_pos hFront]
  cases rest with
  | nil => rfl
  | cons c rest => simp [stopsAt_cons.1 hRest]

theorem stopsAt_append {q : Char → Bool} (hFront : ∀ c ∈ front, q c = true) (hSome : front ≠ [])
    (hApart : ∀ c, q c = true → p c = false) : StopsAt p (front ++ rest) := by
  obtain ⟨c, cs, rfl⟩ := List.exists_cons_of_ne_nil hSome
  exact stopsAt_cons.2 (hApart c (hFront c List.mem_cons_self))

theorem not_mem_before (sep : Char) (s : String) : sep ∉ (before sep s).toList := by
  intro hMem
  rw [before, String.toList_ofList] at hMem
  simpa using List.mem_takeWhile_imp hMem

theorem before_append {sep : Char} {front rest : String} (hFront : sep ∉ front.toList)
    (hRest : StopsAt (· != sep) rest.toList) : before sep (front ++ rest) = front := by
  have hChars : ∀ c ∈ front.toList, (c != sep) = true := by
    intro c hMem
    rw [bne_iff_ne]
    rintro rfl
    exact hFront hMem
  rw [before, String.toList_append, takeWhile_append_of_stopsAt hChars hRest, String.ofList_toList]

theorem before_of_not_mem {sep : Char} {s : String} (h : sep ∉ s.toList) : before sep s = s := by
  have hWhole : before sep (s ++ "") = s := before_append h stopsAt_nil
  rwa [String.append_empty] at hWhole

end Scan

end PodWorkspace.Text
