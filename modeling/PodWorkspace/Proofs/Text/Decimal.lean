import Mathlib.Data.List.Basic
import PodWorkspace.Text.Digits

/-! Numbers in a text: ASCII digits with at most one point and at least one digit. They are told from
other texts of digits and points by counting. -/

namespace PodWorkspace.Text

variable {c : Char} {cs : List Char}

/-- A number: ASCII digits with at most one point before, among or after them. -/
inductive IsDecimal : List Char → Prop
  | whole {digits : List Char} (hDigits : ∀ c ∈ digits, c.isDigit = true) (hSome : digits ≠ []) :
      IsDecimal digits
  | pointed {digits fraction : List Char} (hDigits : ∀ c ∈ digits, c.isDigit = true)
      (hFraction : ∀ c ∈ fraction, c.isDigit = true) (hSome : digits ++ fraction ≠ []) :
      IsDecimal (digits ++ '.' :: fraction)

/-- The characters of numbers. -/
def isDecimalChar (c : Char) : Bool := c.isDigit || c == '.'

theorem isDecimalChar_of_isDigit (h : c.isDigit = true) : isDecimalChar c = true := by
  simp [isDecimalChar, h]

theorem isDigit_of_isDecimalChar (h : isDecimalChar c = true) (hPoint : c ≠ '.') : c.isDigit = true := by
  simpa [isDecimalChar, hPoint] using h

theorem point_not_mem_of_isDigit (h : ∀ c ∈ cs, c.isDigit = true) : '.' ∉ cs := by
  intro hMem
  cases h '.' hMem

theorem IsDecimal.ne_nil (h : IsDecimal cs) : cs ≠ [] := by
  cases h with
  | whole _ hSome => exact hSome
  | pointed => simp

theorem IsDecimal.isDecimalChar (h : IsDecimal cs) : ∀ c ∈ cs, isDecimalChar c = true := by
  cases h with
  | whole hDigits => exact fun c hMem => isDecimalChar_of_isDigit (hDigits c hMem)
  | @pointed digits fraction hDigits hFraction =>
    rw [List.forall_mem_append, List.forall_mem_cons]
    exact ⟨fun c hMem => isDecimalChar_of_isDigit (hDigits c hMem), rfl,
      fun c hMem => isDecimalChar_of_isDigit (hFraction c hMem)⟩

theorem IsDecimal.any_isDigit (h : IsDecimal cs) : cs.any Char.isDigit = true := by
  rw [List.any_eq_true]
  cases h with
  | whole hDigits hSome =>
    obtain ⟨c, hMem⟩ := List.exists_mem_of_ne_nil cs hSome
    exact ⟨c, hMem, hDigits c hMem⟩
  | @pointed digits fraction hDigits hFraction hSome =>
    obtain ⟨c, hMem⟩ := List.exists_mem_of_ne_nil _ hSome
    have hWhole : c ∈ digits ++ '.' :: fraction :=
      (List.Sublist.append_left (List.sublist_cons_self _ _) _).subset hMem
    exact ⟨c, hWhole, List.forall_mem_append.2 ⟨hDigits, hFraction⟩ c hMem⟩

theorem IsDecimal.count_point_le (h : IsDecimal cs) : cs.count '.' ≤ 1 := by
  cases h with
  | whole hDigits => simp [List.count_eq_zero.2 (point_not_mem_of_isDigit hDigits)]
  | pointed hDigits hFraction =>
    simp [List.count_eq_zero.2 (point_not_mem_of_isDigit hDigits),
      List.count_eq_zero.2 (point_not_mem_of_isDigit hFraction)]

theorem isDecimal_of_count (hChars : ∀ c ∈ cs, isDecimalChar c = true)
    (hDigit : cs.any Char.isDigit = true) (hPoints : cs.count '.' ≤ 1) : IsDecimal cs := by
  obtain ⟨d, hMem, hDigit⟩ := List.any_eq_true.1 hDigit
  by_cases hPoint : '.' ∈ cs
  · obtain ⟨digits, fraction, rfl⟩ := List.append_of_mem hPoint
    -- The point is the only one, so there is none on its two sides.
    simp only [List.count_append, List.count_cons_self] at hPoints
    have hDigits : '.' ∉ digits := List.count_eq_zero.1 (by omega)
    have hFraction : '.' ∉ fraction := List.count_eq_zero.1 (by omega)
    rw [List.forall_mem_append, List.forall_mem_cons] at hChars
    refine .pointed (fun c hMem => isDigit_of_isDecimalChar (hChars.1 c hMem) ?_)
      (fun c hMem => isDigit_of_isDecimalChar (hChars.2.2 c hMem) ?_) ?_
    · exact ne_of_mem_of_not_mem hMem hDigits
    · exact ne_of_mem_of_not_mem hMem hFraction
    · rintro hNone
      obtain ⟨rfl, rfl⟩ := List.append_eq_nil_iff.1 hNone
      obtain rfl := List.mem_singleton.1 hMem
      cases hDigit
  · refine .whole (fun c hMem => isDigit_of_isDecimalChar (hChars c hMem) ?_) (List.ne_nil_of_mem hMem)
    exact ne_of_mem_of_not_mem hMem hPoint

/-- A number by the characters in it: digits and points only, at least one digit and at most one point. -/
theorem isDecimal_iff : IsDecimal cs ↔
    (∀ c ∈ cs, isDecimalChar c = true) ∧ cs.any Char.isDigit = true ∧ cs.count '.' ≤ 1 :=
  ⟨fun h => ⟨h.isDecimalChar, h.any_isDigit, h.count_point_le⟩,
    fun ⟨hChars, hDigit, hPoints⟩ => isDecimal_of_count hChars hDigit hPoints⟩

end PodWorkspace.Text
