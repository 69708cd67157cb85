import Mathlib.Data.List.Chain
import PodWorkspace.Proofs.Time.Duration
import PodWorkspace.Time.Throttle

/-! What a throttle lets through of the readings of a clock, in whatever order they come. A reading
passes just when it is more than one interval after the last one that passed, or after the start when
none did. Where a reading passes, the throttle starts anew. Of readings in order the first one that may
pass leaves the most room for those after it, so no selection with the same spacing holds more. -/

namespace PodWorkspace.Throttle

variable {start later interval now : Duration} {readings instants other : List Duration}

/-- The readings that are marked. -/
def chosen : List Duration → List Bool → List Duration
  | now :: readings, true :: marks => now :: chosen readings marks
  | _ :: readings, false :: marks => chosen readings marks
  | _, _ => []

theorem chosen_sublist (readings : List Duration) (marks : List Bool) :
    (chosen readings marks).Sublist readings := by
  fun_induction chosen readings marks with
  | case1 now readings marks ih => exact ih.cons_cons now
  | case2 now readings marks ih => exact ih.cons now
  | case3 readings marks => exact List.nil_sublist readings

/-! ### Spacing -/

/-- Every instant is more than one interval after the start and after the instant before it. -/
structure Spaced (start interval : Duration) (instants : List Duration) : Prop where
  after_start : ∀ now ∈ instants, start + interval < now
  apart : instants.IsChain fun last now => last + interval < now

theorem Spaced.mono (hLe : start ≤ later) (h : Spaced later interval instants) :
    Spaced start interval instants :=
  ⟨fun now hMem => Duration.add_lt_of_le hLe (h.after_start now hMem), h.apart⟩

/-- The first instant is where the spacing of the others starts. -/
theorem spaced_cons : Spaced start interval (now :: instants) ↔
    start + interval < now ∧ Spaced now interval instants := by
  constructor
  · rintro ⟨hStart, hApart⟩
    have : Trans (fun last now : Duration => last + interval < now)
        (fun last now => last + interval < now) fun last now => last + interval < now :=
      ⟨fun hFirst hSecond =>
        Duration.add_lt_of_le (Duration.le_of_lt (Duration.lt_of_add_lt hFirst)) hSecond⟩
    have hNow := List.pairwise_cons.1 hApart.pairwise
    exact ⟨hStart now List.mem_cons_self, hNow.1, hApart.of_cons⟩
  · rintro ⟨hNow, hRest⟩
    have hLe : start ≤ now := Duration.le_of_lt (Duration.lt_of_add_lt hNow)
    refine ⟨List.forall_mem_cons.2 ⟨hNow, (hRest.mono hLe).after_start⟩, ?_⟩
    cases instants with
    | nil => exact .singleton now
    | cons next instants =>
      exact List.isChain_cons_cons.2 ⟨hRest.after_start next List.mem_cons_self, hRest.apart⟩

/-! ### One reading and many -/

theorem answers_cons_of_lt (h : start + interval < now) :
    (startingAt start interval).answers (now :: readings) =
      true :: (startingAt now interval).answers readings := by
  have hStep : (startingAt start interval).allowAt now = (true, startingAt now interval) := if_pos h
  rw [answers, hStep]

theorem answers_cons_of_le (h : now ≤ start + interval) :
    (startingAt start interval).answers (now :: readings) =
      false :: (startingAt start interval).answers readings := by
  have hStep : (startingAt start interval).allowAt now = (false, startingAt start interval) :=
    if_neg (Duration.not_lt.2 h)
  rw [answers, hStep]

theorem length_answers (t : Throttle) (readings : List Duration) :
    (t.answers readings).length = readings.length := by
  induction readings generalizing t with
  | nil => rfl
  | cons now readings ih => rw [answers, List.length_cons, List.length_cons, ih]

theorem spaced_answers (start interval : Duration) (readings : List Duration) :
    Spaced start interval (chosen readings ((startingAt start interval).answers readings)) := by
  induction readings generalizing start with
  | nil => exact ⟨nofun, .nil⟩
  | cons now readings ih =>
    by_cases hNow : start + interval < now
    · rw [answers_cons_of_lt hNow, chosen]
      exact spaced_cons.2 ⟨hNow, ih now⟩
    · rw [answers_cons_of_le (Duration.not_lt.1 hNow), chosen]
      exact ih start

/-- The last one of some readings that passed, or the start when none did. -/
def lastPassed (start : Duration) (readings : List Duration) (answers : List Bool) : Duration :=
  (chosen readings answers).getLast?.getD start

theorem le_of_refused {i : Nat} (hNow : readings[i]? = some now)
    (hAnswer : ((startingAt start interval).answers readings)[i]? = some false) :
    now ≤ lastPassed start (readings.take i) ((startingAt start interval).answers readings) +
      interval := by
  induction readings generalizing start i with
  | nil => simp at hNow
  | cons first readings ih =>
    by_cases hFirst : start + interval < first
    · rw [answers_cons_of_lt hFirst] at hAnswer ⊢
      cases i with
      | zero => simp at hAnswer
      | succ i =>
        have hLater := ih hNow hAnswer
        rw [lastPassed, List.take_succ_cons, chosen, List.getLast?_cons]
        exact hLater
    · have hWithin := Duration.not_lt.1 hFirst
      rw [answers_cons_of_le hWithin] at hAnswer ⊢
      cases i with
      | zero =>
        obtain rfl : first = now := by simpa using hNow
        exact hWithin
      | succ i => exact ih hNow hAnswer

/-! ### No larger selection -/

/-- The first reading that may pass is not after the first one of another selection, so what the others
leave of the time the throttle leaves too. -/
theorem length_le_of_spaced (hOrder : readings.Pairwise (· ≤ ·)) (hOther : other.Sublist readings)
    (hSpaced : Spaced start interval other) :
    other.length ≤
      (chosen readings ((startingAt start interval).answers readings)).length := by
  induction readings generalizing start other with
  | nil => simp [List.sublist_nil.1 hOther]
  | cons first readings ih =>
    obtain ⟨hFirst, hRest⟩ := List.pairwise_cons.1 hOrder
    by_cases hPasses : start + interval < first
    · rw [answers_cons_of_lt hPasses, chosen, List.length_cons]
      cases other with
      | nil => exact Nat.zero_le _
      | cons now others =>
        have hLe : first ≤ now := by
          rcases List.mem_cons.1 (hOther.subset List.mem_cons_self) with rfl | hMem
          · exact Duration.le_refl now
          · exact hFirst now hMem
        have hOthers := (spaced_cons.1 hSpaced).2.mono hLe
        exact Nat.succ_le_succ (ih hRest hOther.of_cons_cons hOthers)
    · rw [answers_cons_of_le (Duration.not_lt.1 hPasses), chosen]
      -- A reading that is refused is too early for every selection.
      rcases List.sublist_cons_iff.1 hOther with hOther | ⟨others, rfl, -⟩
      · exact ih hRest hOther hSpaced
      · exact absurd (spaced_cons.1 hSpaced).1 hPasses

/-- Answers to the readings of a clock that let through one per interval, and as many as can be. -/
structure Rations (start interval : Duration) (readings : List Duration) (answers : List Bool) :
    Prop where
  length_eq : answers.length = readings.length
  spaced : Spaced start interval (chosen readings answers)
  /-- A reading is refused only within one interval of the last one before it that passed. -/
  refused : ∀ i now, readings[i]? = some now → answers[i]? = some false →
    now ≤ lastPassed start (readings.take i) answers + interval
  /-- Of readings in order no other selection with this spacing holds more. -/
  most : readings.Pairwise (· ≤ ·) → ∀ marks, Spaced start interval (chosen readings marks) →
    (chosen readings marks).length ≤ (chosen readings answers).length

/-- What a throttle lets through is spaced by more than one interval, whatever the clock reads. It refuses
nothing that this spacing does not forbid, and of readings in order it lets through as many as any
selection with this spacing holds. -/
theorem rations_answers (start interval : Duration) (readings : List Duration) :
    Rations start interval readings ((startingAt start interval).answers readings) where
  length_eq := length_answers _ readings
  spaced := spaced_answers start interval readings
  refused _ _ hNow hAnswer := le_of_refused hNow hAnswer
  most hOrder _ hSpaced := length_le_of_spaced hOrder (chosen_sublist ..) hSpaced

/-- One interval is not enough, neither after the start nor after a reading that passed. -/
example : (startingAt ⟨0⟩ ⟨5⟩).answers [⟨5⟩, ⟨6⟩, ⟨11⟩, ⟨12⟩] = [false, true, false, true] := by decide

end PodWorkspace.Throttle
