import Mathlib.Data.List.DropRight
import PodWorkspace.Proofs.Text.Split
import PodWorkspace.Text.Blank

/-! What trimming keeps: all but the white space at the two ends. White space that is put around a
text changes nothing, and a text in which a character that is no white space stands is trimmed on the
two sides of that character apart. -/

namespace PodWorkspace.Text

variable {p : Char → Bool} {c : Char} {cs front rest before after : List Char}

theorem dropWhile_of_all (h : ∀ c ∈ before, p c = true) : before.dropWhile p = [] :=
  List.dropWhile_eq_nil_iff.2 h

theorem dropEndWhile_eq_nil_iff : dropEndWhile p cs = [] ↔ ∀ c ∈ cs, p c = true := by
  simp [dropEndWhile, List.dropWhile_eq_nil_iff]

theorem dropEndWhile_append_of_all (h : ∀ c ∈ after, p c = true) :
    dropEndWhile p (cs ++ after) = dropEndWhile p cs := by
  have hReverse : ∀ c ∈ after.reverse, p c = true := fun c hMem => h c (List.mem_reverse.1 hMem)
  simp [dropEndWhile, List.dropWhile_append, dropWhile_of_all hReverse]

theorem dropEndWhile_append_cons (h : p c = false) :
    dropEndWhile p (front ++ c :: rest) = front ++ c :: dropEndWhile p rest := by
  simp only [dropEndWhile, List.reverse_append, List.reverse_cons, List.append_assoc]
  rw [List.dropWhile_append]
  split
  · rename_i hEmpty
    have hNone : rest.reverse.dropWhile p = [] := by simpa using hEmpty
    simp [hNone, h]
  · simp

theorem dropEndWhile_prefix (p : Char → Bool) (cs : List Char) : dropEndWhile p cs <+: cs :=
  List.rdropWhile_prefix p cs

/-- What is left of a text is nothing, or it ends in a character without the property. -/
theorem dropEndWhile_eq_nil_or (p : Char → Bool) (cs : List Char) :
    dropEndWhile p cs = [] ∨ ∃ front last, dropEndWhile p cs = front ++ [last] ∧ p last = false := by
  rw [or_iff_not_imp_left]
  intro hSome
  have hLast := List.rdropWhile_last_not p cs hSome
  exact ⟨_, _, (List.dropLast_append_getLast hSome).symm, Bool.eq_false_iff.2 hLast⟩

theorem dropWhile_append_cons (h : p c = false) :
    (front ++ c :: rest).dropWhile p = front.dropWhile p ++ c :: rest := by
  rw [List.dropWhile_append]
  split
  · rename_i hEmpty
    have hNone : front.dropWhile p = [] := by simpa using hEmpty
    simp [hNone, h]
  · rfl

/-- White space around a text is trimmed. -/
theorem trimChars_pad (hBefore : ∀ c ∈ before, isBlank c = true)
    (hAfter : ∀ c ∈ after, isBlank c = true) : trimChars (before ++ cs ++ after) = trimChars cs := by
  rw [List.append_assoc, trimChars, List.dropWhile_append_of_pos hBefore, List.dropWhile_append]
  split
  · rename_i hEmpty
    have hNone : cs.dropWhile isBlank = [] := by simpa using hEmpty
    rw [dropWhile_of_all hAfter, trimChars, hNone]
  · rw [dropEndWhile_append_of_all hAfter, trimChars]

/-- Each side of a character that is no white space is trimmed at its own end. -/
theorem trimChars_append_cons (h : isBlank c = false) :
    trimChars (front ++ c :: rest) = front.dropWhile isBlank ++ c :: dropEndWhile isBlank rest := by
  rw [trimChars, dropWhile_append_cons h, dropEndWhile_append_cons h]

theorem trimChars_dropWhile : trimChars (cs.dropWhile isBlank) = trimChars cs := by
  rw [trimChars, List.dropWhile_idempotent, trimChars]

theorem trimChars_dropEndWhile : trimChars (dropEndWhile isBlank cs) = trimChars cs := by
  have hBlank : ∀ c ∈ List.rtakeWhile isBlank cs, isBlank c = true := fun c => List.mem_rtakeWhile_imp
  have hWhole : dropEndWhile isBlank cs ++ List.rtakeWhile isBlank cs = cs :=
    List.rdropWhile_append_rtakeWhile
  have hPad : trimChars ([] ++ dropEndWhile isBlank cs ++ List.rtakeWhile isBlank cs) =
      trimChars (dropEndWhile isBlank cs) := trimChars_pad nofun hBlank
  rw [List.nil_append, hWhole] at hPad
  exact hPad.symm

/-- A trimmed text has no white space at its end. -/
theorem dropEndWhile_of_trimChars (h : trimChars cs = cs) : dropEndWhile isBlank cs = cs := by
  have hTwice : dropEndWhile isBlank (trimChars cs) = trimChars cs := List.rdropWhile_idempotent ..
  rwa [h] at hTwice

theorem trimChars_eq_nil_iff : trimChars cs = [] ↔ ∀ c ∈ cs, isBlank c = true := by
  rw [trimChars, dropEndWhile_eq_nil_iff]
  constructor
  · intro h
    by_contra hOther
    -- The first character that is left is no white space.
    have hNe : cs.dropWhile isBlank ≠ [] := by rwa [Ne, List.dropWhile_eq_nil_iff]
    have hHead := List.head_dropWhile_not isBlank hNe
    rw [h _ (List.head_mem hNe)] at hHead
    cases hHead
  · intro h c hMem
    exact h c ((List.dropWhile_suffix isBlank).subset hMem)

theorem trim_eq_empty_iff {s : String} : trim s = "" ↔ isAllBlank s = true := by
  rw [trim, ← String.toList_inj, String.toList_ofList, isAllBlank, List.all_eq_true]
  exact trimChars_eq_nil_iff

theorem not_mem_of_isAllBlank {s : String} {c : Char} (h : isAllBlank s = true)
    (hc : isBlank c = false) : c ∉ s.toList := by
  intro hMem
  rw [List.all_eq_true.1 h c hMem] at hc
  cases hc

theorem trim_pad {a s b : String} (ha : isAllBlank a = true) (hb : isAllBlank b = true) :
    trim (a ++ s ++ b) = trim s := by
  have hPad : trimChars (a.toList ++ s.toList ++ b.toList) = trimChars s.toList :=
    trimChars_pad (List.all_eq_true.1 ha) (List.all_eq_true.1 hb)
  rw [trim, String.toList_append, String.toList_append, hPad, trim]

theorem not_mem_trimChars {c : Char} {cs : List Char} (h : c ∉ cs) : c ∉ trimChars cs := by
  intro hMem
  have hDropped : c ∈ cs.dropWhile isBlank :=
    List.mem_reverse.1 ((List.dropWhile_suffix isBlank).subset (List.mem_reverse.1 hMem))
  exact h ((List.dropWhile_suffix isBlank).subset hDropped)

/-- A text that is trimmed is cut into halves that are the same up to white space around them. -/
theorem cut_trim {sep : Char} {s front rest : String} (hSep : isBlank sep = false)
    (h : cut sep s = some (front, rest)) :
    ∃ front' rest', cut sep (trim s) = some (front', rest') ∧ trim front' = trim front ∧
      trim rest' = trim rest := by
  obtain ⟨hWhole, hFront⟩ := cut_eq_some_iff.1 h
  have hChars : s.toList = front.toList ++ sep :: rest.toList := by simp [hWhole]
  have hDropped : sep ∉ front.toList.dropWhile isBlank :=
    fun hMem => hFront ((List.dropWhile_suffix isBlank).subset hMem)
  have hCut : cutChars sep (trim s).toList =
      some (front.toList.dropWhile isBlank, dropEndWhile isBlank rest.toList) := by
    rw [trim, String.toList_ofList, hChars, trimChars_append_cons hSep, cutChars_append hDropped]
  refine ⟨_, _, by rw [cut, hCut, Option.map_some], ?_, ?_⟩
  · rw [trim, String.toList_ofList, trimChars_dropWhile, trim]
  · rw [trim, String.toList_ofList, trimChars_dropEndWhile, trim]

/-- A text that neither begins nor ends with white space is trimmed already. -/
theorem trimChars_of_ends (hFirst : ∀ c ∈ cs.head?, isBlank c = false)
    (hLast : ∀ c ∈ cs.getLast?, isBlank c = false) : trimChars cs = cs := by
  have hFront : cs.dropWhile isBlank = cs := by
    cases cs with
    | nil => rfl
    | cons c cs => simp [hFirst c rfl]
  have hBack : cs.reverse.dropWhile isBlank = cs.reverse := by
    rw [← List.head?_reverse] at hLast
    cases hReverse : cs.reverse with
    | nil => rfl
    | cons c ds =>
      rw [hReverse] at hLast
      simp [hLast c rfl]
  rw [trimChars, hFront, dropEndWhile, hBack, List.reverse_reverse]

/-- A text without white space stays as it is. -/
theorem trimChars_of_forall (h : ∀ c ∈ cs, isBlank c = false) : trimChars cs = cs :=
  trimChars_of_ends (fun c hHead => h c (List.mem_of_mem_head? hHead))
    fun c hLast => h c (List.mem_of_mem_getLast? hLast)

/-- What is left of a text without the white space around it. -/
structure IsCore (s core : String) : Prop where
  padded : ∃ before after, s = before ++ core ++ after ∧ isAllBlank before = true ∧
    isAllBlank after = true
  first : ∀ c ∈ core.toList.head?, isBlank c = false
  last : ∀ c ∈ core.toList.getLast?, isBlank c = false

theorem isCore_trim (s : String) : IsCore s (trim s) where
  padded := by
    refine ⟨String.ofList (s.toList.takeWhile isBlank),
      String.ofList ((s.toList.dropWhile isBlank).rtakeWhile isBlank), ?_, ?_, ?_⟩
    · have hBack : dropEndWhile isBlank (s.toList.dropWhile isBlank) ++
          (s.toList.dropWhile isBlank).rtakeWhile isBlank = s.toList.dropWhile isBlank :=
        List.rdropWhile_append_rtakeWhile
      rw [← String.toList_inj]
      simp only [trim, trimChars, String.toList_append, String.toList_ofList, List.append_assoc]
      rw [hBack, List.takeWhile_append_dropWhile]
    · simp [isAllBlank]
    · simpa [isAllBlank] using fun c => List.mem_rtakeWhile_imp
  first := by
    rw [trim, String.toList_ofList, trimChars]
    have hHead := stopsAt_dropWhile isBlank s.toList
    cases hFront : s.toList.dropWhile isBlank with
    | nil => simp [dropEndWhile]
    | cons c cs =>
      -- The first character that is kept at the front is kept at the end.
      rw [hFront] at hHead
      have hKept : dropEndWhile isBlank ([] ++ c :: cs) = [] ++ c :: dropEndWhile isBlank cs :=
        dropEndWhile_append_cons (stopsAt_cons.1 hHead)
      rw [List.nil_append, List.nil_append] at hKept
      rw [hKept]
      exact stopsAt_cons.2 (stopsAt_cons.1 hHead)
  last := by
    rw [trim, String.toList_ofList, trimChars, dropEndWhile, List.getLast?_reverse]
    exact stopsAt_dropWhile isBlank _

/-- There is one text that is left without the white space around a text. -/
theorem isCore_iff {s core : String} : IsCore s core ↔ core = trim s := by
  constructor
  · rintro ⟨⟨before, after, rfl, hBefore, hAfter⟩, hFirst, hLast⟩
    rw [trim_pad hBefore hAfter, trim, trimChars_of_ends hFirst hLast, String.ofList_toList]
  · rintro rfl
    exact isCore_trim s

end PodWorkspace.Text
