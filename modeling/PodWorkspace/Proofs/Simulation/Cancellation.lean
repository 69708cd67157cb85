import PodWorkspace.Proofs.Program.Cancellation
import PodWorkspace.Simulation.Run

/-! Simulated runs of programs that may be cancelled. The simulation sets the token when its time has
come, unless the program has ended by then, so that a run which ends is an execution of the program.
The calls that the simulation records are the ones that the execution starts. -/

namespace PodWorkspace.Simulation

open Cluster Program

variable {α : Type} {Q : Result α → Prop} {w : World} {x : Action α} {watches : Prop}

/-- How a simulated program ends, if it does. -/
def Ending.outcome? : Ending α → Result α
  | .done a => some (.ok a)
  | .failed f => some (.error f)
  | .hung => none

def Fate.answer? : Fate α → Result α
  | .answered a => some a
  | .cutOff | .lost => none

/-- The calls that show of an execution, as the simulation records them. -/
def recorded (moments : List (Moment interface)) : List Call :=
  moments.filterMap fun
    | .started r => some (.ofRequest r)
    | _ => none

@[simp] theorem recorded_append (before after : List (Moment interface)) :
    recorded (before ++ after) = recorded before ++ recorded after :=
  List.filterMap_append

namespace World

/-- What shows of a step in the simulation: the calls it records, and whether the token is set. -/
structure Shows (w : World) (moments : List (Moment interface)) (w' : World) : Prop where
  calls : w'.calls = (recorded moments).reverse ++ w.calls
  isSet : w'.isCancelled = (w.isCancelled || moments.any (· matches .cancelled))

theorem Shows.append {w' w'' : World} {before after : List (Moment interface)}
    (h : w.Shows before w') (h' : w'.Shows after w'') : w.Shows (before ++ after) w'' where
  calls := by simp [h'.calls, h.calls]
  isSet := by simp [h'.isSet, h.isSet, Bool.or_assoc]

theorem shows_nil : w.Shows [] w where
  calls := rfl
  isSet := by simp

theorem isCut_of_set (hSet : w.isCancelled = true) (deadline : Option Duration) :
    w.isCut deadline = true := by
  simp [isCut, hSet]

theorem isCut_none (hUnset : w.isCancelled = false) : w.isCut none = false := by
  simp [isCut, hUnset]

/-- Without a deadline of its own a wait is cut off just when the token is set in its course. -/
theorem waitUntil_none (w : World) (till : Duration) :
    (w.waitUntil none till).2.calls = w.calls ∧
      (w.waitUntil none till).2.isCancelled = (w.isCancelled || !(w.waitUntil none till).1) := by
  have hRefl (time : Duration) : time ≤ time := Nat.le_refl time.nanos
  unfold waitUntil limit
  cases hCancel : w.cancelAt with
  | none => simp [later]
  | some time =>
    by_cases hEarly : time < till
    · simp [hEarly, cutAt, later, hCancel, hRefl]
    · simp [hEarly, later]

@[simp] theorem calls_record (w : World) (r : Request) :
    (w.record r).2.calls = .ofRequest r :: w.calls := rfl

@[simp] theorem isCancelled_record (w : World) (r : Request) :
    (w.record r).2.isCancelled = w.isCancelled := rfl

/-- A call that is placed is recorded, and it is cut off just when the token is set in its course. -/
theorem place_of_unset {r : Request} {fate : Fate r.Answer} {w' : World}
    (hUnset : w.isCancelled = false) (h : w.place none r = (fate, w')) (hLost : fate ≠ .lost) :
    w'.calls = .ofRequest r :: w.calls ∧
      ((∃ a, fate = .answered a ∧ w'.isCancelled = false) ∨
        fate = .cutOff ∧ w'.isCancelled = true) := by
  have hRefl (time : Duration) : time ≤ time := Nat.le_refl time.nanos
  unfold place at h
  rw [isCut_none hUnset, if_neg Bool.false_ne_true] at h
  have hCalls := calls_record w r
  have hCancelled := isCancelled_record w r
  generalize w.record r = recorded at h hCalls hCancelled
  obtain ⟨mishap, u⟩ := recorded
  dsimp only at h hCalls hCancelled
  rw [hUnset] at hCancelled
  rcases mishap with _ | (_ | time | message | _)
  case none =>
    cases h
    exact ⟨hCalls, .inl ⟨_, rfl, hCancelled⟩⟩
  case some.hang =>
    cases hCancel : u.cancelAt with
    | none =>
      simp only [limit, hCancel] at h
      cases h
      exact absurd rfl hLost
    | some time =>
      simp only [limit, hCancel] at h
      cases h
      exact ⟨hCalls, .inr ⟨rfl, by simp [cutAt, later, hCancel, hRefl]⟩⟩
  case some.delay =>
    obtain ⟨hWaitCalls, hWaitCancelled⟩ := waitUntil_none u (u.now + time)
    dsimp only at h
    generalize u.waitUntil none (u.now + time) = waited at h hWaitCalls hWaitCancelled
    obtain ⟨slept, v⟩ := waited
    cases slept with
    | true =>
      cases h
      have hUntouched : v.isCancelled = false := by simpa [hCancelled] using hWaitCancelled
      exact ⟨hWaitCalls.trans hCalls, .inl ⟨_, rfl, hUntouched⟩⟩
    | false =>
      cases h
      exact ⟨hWaitCalls.trans hCalls, .inr ⟨rfl, by simpa using hWaitCancelled⟩⟩
  case some.fail =>
    cases h
    exact ⟨hCalls, .inl ⟨_, rfl, hCancelled⟩⟩
  case some.cancelled =>
    cases h
    exact ⟨hCalls, .inl ⟨_, rfl, hCancelled⟩⟩

section Courses

variable {deadline : Option Duration} {request : Request} {till : Duration} {w' : World}

/-- A call that watches the token, and has no deadline, goes its course in the simulation. -/
theorem course_of_place {fate : Fate request.Answer} (hWatches : watches)
    (hDeadline : w.isCancelled = false → deadline = none)
    (h : w.place deadline request = (fate, w')) (hLost : fate ≠ .lost) :
    ∃ shown, Course watches (.started request) (.answered request) w.isCancelled shown fate.answer?
      w'.isCancelled ∧ w.Shows shown w' := by
  cases hSet : w.isCancelled with
  | true =>
    rw [place, if_pos (isCut_of_set hSet deadline)] at h
    cases h
    rw [hSet]
    exact ⟨[], .refused hWatches, shows_nil⟩
  | false =>
    obtain rfl := hDeadline hSet
    obtain ⟨hCalls, ⟨a, rfl, hUnset⟩ | ⟨rfl, hCut⟩⟩ := place_of_unset hSet h hLost
    · rw [hUnset]
      exact ⟨_, .completed a (by simp), hCalls, by simp [hSet, hUnset]⟩
    · rw [hCut]
      exact ⟨_, .interrupted hWatches, hCalls, by simp [hCut]⟩

/-- A sleep that watches the token, and has no deadline, goes its course in the simulation. -/
theorem course_of_sleep {slept : Bool} (hWatches : watches)
    (hDeadline : w.isCancelled = false → deadline = none)
    (h : (if w.isCut deadline then (false, w) else w.waitUntil deadline till) = (slept, w')) :
    ∃ shown awake, Course watches (.asleep till) (fun _ : Unit => .awake) w.isCancelled shown awake
      w'.isCancelled ∧ awake.isSome = slept ∧ w.Shows shown w' := by
  cases hSet : w.isCancelled with
  | true =>
    rw [if_pos (isCut_of_set hSet deadline)] at h
    cases h
    rw [hSet]
    exact ⟨[], none, .refused hWatches, rfl, shows_nil⟩
  | false =>
    obtain rfl := hDeadline hSet
    rw [isCut_none hSet, if_neg Bool.false_ne_true] at h
    obtain ⟨hCalls, hCut⟩ := waitUntil_none w till
    simp only [h, hSet, Bool.false_or] at hCalls hCut
    rw [hCut]
    cases slept with
    | true => exact ⟨_, some (), .completed () (by simp), rfl, hCalls, by simp [hCut, hSet]⟩
    | false => exact ⟨_, none, .interrupted hWatches, rfl, hCalls, by simp [hCut]⟩

theorem run_call {next : Option (Except Failure request.Answer) → Action α} {fate : Fate request.Answer}
    {outcome : Except Failure α} (h : w.place deadline request = (fate, w'))
    (hEnds : (w.run (.call deadline request next)).1.outcome? = some outcome) :
    fate ≠ .lost ∧ w.run (.call deadline request next) = w'.run (next fate.answer?) := by
  simp only [run, h] at hEnds ⊢
  cases fate with
  | lost => cases hEnds
  | cutOff | answered =>
    dsimp only at hEnds ⊢
    split at hEnds
    · cases hEnds
    · rename_i hPatient
      rw [if_neg hPatient]
      exact ⟨nofun, rfl⟩

theorem run_sleep {next : Bool → Action α} {slept : Bool} {outcome : Except Failure α}
    (h : (if w.isCut deadline then (false, w) else w.waitUntil deadline till) = (slept, w'))
    (hEnds : (w.run (.sleep deadline till next)).1.outcome? = some outcome) :
    w.run (.sleep deadline till next) = w'.run (next slept) := by
  simp only [run] at hEnds ⊢
  split at h
  case isTrue hCut =>
    cases h
    rw [if_pos hCut]
  case isFalse hCut =>
    rw [if_neg hCut, h] at hEnds ⊢
    dsimp only at hEnds ⊢
    split at hEnds
    · cases hEnds
    · rename_i hPatient
      rw [if_neg hPatient]

end Courses

/-- How a program goes on after a step that watches the token: as one that is cut off when the token
is set, and else with what the step comes to. -/
theorem goesOn_of_course {β : Type} {begun : Moment interface} {ended : β → Moment interface}
    {isSet isSet' : Bool} {shown : List (Moment interface)} {b? : Option β}
    {H D : Option β → Prop} (hCourse : Course watches begun ended isSet shown b? isSet')
    (hWatches : watches) (hHalts : H none) (hHeeds : isSet = false → ∀ b, D (some b)) :
    (isSet' = true → H b?) ∧ (isSet' = false → D b?) := by
  cases isSet with
  | true =>
    obtain ⟨-, rfl, rfl⟩ := hCourse.of_set hWatches
    exact ⟨fun _ => hHalts, nofun⟩
  | false =>
    obtain ⟨-, rfl, rfl⟩ | ⟨b, -, rfl, rfl⟩ := hCourse.of_unset hWatches
    · exact ⟨fun _ => hHalts, nofun⟩
    · exact ⟨nofun, fun _ => hHeeds rfl b⟩

/-- A simulated run that ends is an execution with the calls that were recorded. It is cancelled just
when the token is set in its course. -/
theorem executes_of_run {outcome : Except Failure α} (hQ : ¬Q none)
    (hSet : w.isCancelled = true → HaltsWith Q x) (hUnset : w.isCancelled = false → Heeds Q x)
    (hEnds : (w.run x).1.outcome? = some outcome) :
    ∃ moments, Executes w.isCancelled x moments (some outcome) ∧ w.Shows moments (w.run x).2 := by
  induction x generalizing w with
  | done a =>
    cases hEnds
    exact ⟨[], .done a, shows_nil⟩
  | fail f =>
    cases hEnds
    exact ⟨[], .fail f, shows_nil⟩
  | cutOff => cases hEnds
  | log e rest ih =>
    obtain ⟨moments, hRest, hShows⟩ := ih (w := { w with events := e :: w.events }) hSet hUnset hEnds
    exact ⟨moments, .log hRest, hShows.calls, hShows.isSet⟩
  | clock next ih =>
    obtain ⟨moments, hRest, hShows⟩ := ih w.now (fun h => hSet h w.now) (fun h => hUnset h w.now) hEnds
    exact ⟨moments, .clock w.now hRest, hShows⟩
  | call deadline request next ih =>
    have hHalts : HaltsWith Q (next none) := by
      cases hToken : w.isCancelled with
      | true => exact hSet hToken
      | false => exact (hUnset hToken).2.1
    obtain ⟨fate, w', hPlace⟩ : ∃ fate w', w.place deadline request = (fate, w') := ⟨_, _, rfl⟩
    obtain ⟨hLost, hRun⟩ := run_call hPlace hEnds
    rw [hRun] at hEnds ⊢
    obtain ⟨shown, hCourse, hShows⟩ := course_of_place (hHalts.goesOn hQ)
      (fun hToken => (hUnset hToken).1) hPlace hLost
    obtain ⟨hSet', hUnset'⟩ := goesOn_of_course (H := fun a => HaltsWith Q (next a))
      (D := fun a => Heeds Q (next a)) hCourse (hHalts.goesOn hQ) hHalts
      fun hToken => (hUnset hToken).2.2
    obtain ⟨moments, hRest, hShowsRest⟩ := ih _ hSet' hUnset' hEnds
    exact ⟨shown ++ moments, .call hCourse hRest, hShows.append hShowsRest⟩
  | sleep deadline till next ih =>
    have hHalts : HaltsWith Q (next false) := by
      cases hToken : w.isCancelled with
      | true => exact hSet hToken
      | false => exact (hUnset hToken).2.1
    obtain ⟨slept, w', hSleep⟩ : ∃ slept w', (if w.isCut deadline then (false, w) else
      w.waitUntil deadline till) = (slept, w') := ⟨_, _, rfl⟩
    have hRun := run_sleep hSleep hEnds
    rw [hRun] at hEnds ⊢
    obtain ⟨shown, awake, hCourse, rfl, hShows⟩ := course_of_sleep (hHalts.goesOn hQ)
      (fun hToken => (hUnset hToken).1) hSleep
    obtain ⟨hSet', hUnset'⟩ := goesOn_of_course (H := fun a => HaltsWith Q (next a.isSome))
      (D := fun a => Heeds Q (next a.isSome)) hCourse (hHalts.goesOn hQ) hHalts
      fun hToken _ => (hUnset hToken).2.2
    obtain ⟨moments, hRest, hShowsRest⟩ := ih _ hSet' hUnset' hEnds
    exact ⟨shown ++ moments, .sleep hCourse hRest, hShows.append hShowsRest⟩

/-- The token shows in an execution when it is set in its course. -/
theorem Shows.cancelled_mem {w' : World} {moments : List (Moment interface)}
    (h : w.Shows moments w') (hUnset : w.isCancelled = false) (hSet : w'.isCancelled = true) :
    .cancelled ∈ moments := by
  rw [h.isSet, hUnset, Bool.false_or, List.any_eq_true] at hSet
  obtain ⟨moment, hMem, hCancelled⟩ := hSet
  cases moment with
  | cancelled => exact hMem
  | _ => cases hCancelled

end World

end PodWorkspace.Simulation
