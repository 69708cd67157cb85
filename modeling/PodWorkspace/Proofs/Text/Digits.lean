import PodWorkspace.Text.Blank
import PodWorkspace.Text.Digits

/-! The decimal digits of a number spell that number, and none of them is white space. -/

namespace PodWorkspace.Text

theorem digitValue?_digitChar : ∀ d < 10, digitValue? 10 (Nat.digitChar d) = some d := by
  decide

/-- One more digit counts for itself and makes the others count `base` times as much. -/
theorem natOfDigits?_concat {base : Nat} {cs : List Char} {c : Char} {n d : Nat}
    (hInit : natOfDigits? base cs = some n) (hLast : digitValue? base c = some d) :
    natOfDigits? base (cs ++ [c]) = some (n * base + d) := by
  unfold natOfDigits? at hInit ⊢
  split at hInit
  · cases hInit
  · rw [if_neg (by simp), List.foldl_append, hInit, List.foldl_cons, List.foldl_nil, hLast]
    rfl

theorem natOfDigits?_toDigits (n : Nat) : natOfDigits? 10 (Nat.toDigits 10 n) = some n := by
  induction n using Nat.strongRecOn with
  | _ n ih =>
    by_cases hSmall : n < 10
    · rw [Nat.toDigits_of_lt_base hSmall]
      simp [natOfDigits?, digitValue?_digitChar n hSmall]
    · have hLast := digitValue?_digitChar (n % 10) (Nat.mod_lt n (by decide))
      rw [Nat.toDigits_of_base_le (by decide) (by omega),
        natOfDigits?_concat (ih (n / 10) (by omega)) hLast, Nat.div_add_mod']

theorem not_isBlank_of_isDigit {c : Char} (h : c.isDigit = true) : isBlank c = false := by
  have hRange : 48 ≤ c.toNat ∧ c.toNat ≤ 57 := by
    simpa [Char.isDigit, UInt32.le_iff_toNat_le] using h
  simp only [isBlank, Bool.or_eq_false_iff, Bool.and_eq_false_iff, decide_eq_false_iff_not,
    beq_eq_false_iff_ne]
  omega

end PodWorkspace.Text
