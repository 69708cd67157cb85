import PodWorkspace.Time.Duration

/-! The order of lengths of time, which also stand for points in time. -/

namespace PodWorkspace

namespace Duration

variable {a b c d : Duration}

theorem le_refl (a : Duration) : a ≤ a := Nat.le_refl a.nanos

theorem le_trans (h : a ≤ b) (h' : b ≤ c) : a ≤ c := Nat.le_trans (m := b.nanos) h h'

theorem le_total (a b : Duration) : a ≤ b ∨ b ≤ a := Nat.le_total a.nanos b.nanos

theorem not_lt : ¬a < b ↔ b ≤ a := Nat.not_lt

theorem le_of_lt (h : a < b) : a ≤ b := Nat.le_of_lt h

theorem le_or_le_of_le (h : a ≤ b) (c : Duration) : c ≤ b ∨ a ≤ c :=
  (le_total c b).imp_right (le_trans h)

theorem lt_of_add_lt (h : a + d < b) : a < b := by
  have hNanos : a.nanos + d.nanos < b.nanos := h
  show a.nanos < b.nanos
  omega

/-- What comes late enough after some time comes late enough after any earlier time. -/
theorem add_lt_of_le (hLe : a ≤ b) (hLt : b + d < c) : a + d < c := by
  have hStart : a.nanos ≤ b.nanos := hLe
  have hEnd : b.nanos + d.nanos < c.nanos := hLt
  show a.nanos + d.nanos < c.nanos
  omega

protected def max (a b : Duration) : Duration := if a ≤ b then b else a

theorem le_max_left (a b : Duration) : a ≤ a.max b := by
  unfold Duration.max
  split
  · assumption
  · exact le_refl a

theorem le_max_right (a b : Duration) : b ≤ a.max b := by
  unfold Duration.max
  split
  · exact le_refl b
  · exact (le_total a b).resolve_left ‹_›

end Duration

end PodWorkspace
