import Mathlib
import PodWorkspace.Text.Split

/-! Texts in lower case, and texts that differ only in the case of their letters. All of it is about the
letters of ASCII; every other character stays what it is. -/

namespace PodWorkspace.Text

variable {s t : String} {c : Char}

/-- The second text is the first one with some of its letters in the other case. -/
def SameLetters (s t : String) : Prop :=
  List.Forall₂ (fun c d => d = c ∨ d = c.toUpper ∨ d = c.toLower) s.toList t.toList

theorem lowerAscii_lowerAscii (s : String) : lowerAscii (lowerAscii s) = lowerAscii s := by
  simp [lowerAscii, Function.comp_def]

theorem SameLetters.lowerAscii_eq (h : SameLetters s t) : lowerAscii t = lowerAscii s := by
  have hChars : t.toList.map Char.toLower = s.toList.map Char.toLower := by
    unfold SameLetters at h
    generalize s.toList = cs at h ⊢
    generalize t.toList = ds at h ⊢
    induction h with
    | nil => rfl
    | cons hChar _ ih =>
      rw [List.map_cons, List.map_cons, ih]
      rcases hChar with rfl | rfl | rfl <;> simp
  rw [lowerAscii, hChars, lowerAscii]

/-- A character that is no letter stands in a text just when it stands in that text in lower case. -/
theorem mem_lowerAscii_iff (hLetter : c.isAlpha = false) : c ∈ (lowerAscii s).toList ↔ c ∈ s.toList := by
  have hLower (d : Char) : d.toLower = c ↔ d = c := by
    by_cases hUpper : d.isUpper = true
    · have hAlpha : d.isAlpha = true := by simp [Char.isAlpha, hUpper]
      constructor
      · rintro rfl
        simp [hAlpha] at hLetter
      · rintro rfl
        simp [hAlpha] at hLetter
    · rw [Char.toLower_eq_of_not_isUpper hUpper]
  simp [lowerAscii, hLower]

end PodWorkspace.Text
