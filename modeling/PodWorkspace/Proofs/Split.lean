import Mathlib.Data.List.Basic

/-! Lists that are cut at an element. Where a list is the whole of two, an element that only one of
them has is found in that one. -/

namespace PodWorkspace

variable {α : Type} {first second before after more others : List α} {x y : α}

/-- An element that the first list does not have stands in the second one. -/
theorem split_of_not_mem_left (h : first ++ second = before ++ x :: after) (hFirst : x ∉ first) :
    ∃ inner, before = first ++ inner ∧ second = inner ++ x :: after := by
  obtain ⟨inner, hBefore, hSecond⟩ | ⟨inner, hWhole, hAfter⟩ := List.append_eq_append_iff.1 h
  · exact ⟨inner, hBefore, hSecond⟩
  · cases inner with
    | nil => exact ⟨[], by simpa using hWhole.symm, by simpa using hAfter.symm⟩
    | cons y inner =>
      obtain ⟨rfl, -⟩ := List.cons.inj hAfter
      simp [hWhole] at hFirst

/-- An element that the second list does not have stands in the first one. -/
theorem split_of_not_mem_right (h : first ++ second = before ++ x :: after) (hSecond : x ∉ second) :
    ∃ inner, first = before ++ x :: inner ∧ after = inner ++ second := by
  obtain ⟨inner, -, hWhole⟩ | ⟨inner, hFirst, hAfter⟩ := List.append_eq_append_iff.1 h
  · simp [hWhole] at hSecond
  · cases inner with
    | nil =>
      rw [List.nil_append] at hAfter
      simp [← hAfter] at hSecond
    | cons y inner =>
      obtain ⟨rfl, rfl⟩ := List.cons.inj hAfter
      exact ⟨inner, hFirst, rfl⟩

/-- An element other than the first one stands in the rest. -/
theorem split_of_ne (h : x :: more = before ++ y :: after) (hNe : y ≠ x) :
    ∃ inner, before = x :: inner ∧ more = inner ++ y :: after := by
  cases before with
  | nil => exact absurd (List.cons.inj h).1.symm hNe
  | cons z inner =>
    obtain ⟨rfl, hMore⟩ := List.cons.inj h
    exact ⟨inner, rfl, hMore⟩

/-- Of two elements at which a list is cut, one that does not come before the other comes after it. -/
theorem mem_of_append_eq (h : first ++ x :: more = second ++ y :: others) (hFirst : y ∉ first)
    (hNe : y ≠ x) : x ∈ second := by
  obtain ⟨inner, rfl, hMore⟩ := split_of_not_mem_left h hFirst
  obtain ⟨_, rfl, -⟩ := split_of_ne hMore hNe
  simp

end PodWorkspace
