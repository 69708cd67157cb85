import PodWorkspace.Proofs.Program.Runs

/-! Runs of a program whose questions are answered by programs over another interface. Such a run is
one of the program itself in which each question is replaced by a run of what answers it, so what holds
of all runs of the program holds of it as well. -/

namespace PodWorkspace.Program

variable {I J : Interface} {α : Type}

/-- A deadline decides when a step is cut off, and that any step may be. -/
theorem runs_within {limit : Duration} {x : Program I α} {steps : List (Step I)}
    {ending : Result α} : Runs (within limit x) steps ending ↔ Runs x steps ending := by
  induction x generalizing steps with
  | done | fail | cutOff => exact Iff.rfl
  | log e rest ih => rw [within, runs_log, runs_log, ih]
  | call deadline request k ih => simp only [within, runs_call, ih]
  | clock k ih => simp only [within, runs_clock, ih]
  | sleep deadline till k ih => simp only [within, runs_sleep, ih]

theorem orElseCut_eq_onEnding (other x : Program I α) :
    orElseCut other x = onEnding (fun r => r.elim other ofExcept) x := by
  induction x with
  | done | fail | cutOff => rfl
  | log e rest ih => exact congrArg (log e) ih
  | call deadline request k ih => exact congrArg (call deadline request) (funext ih)
  | clock k ih => exact congrArg clock (funext ih)
  | sleep deadline till k ih => exact congrArg (sleep deadline till) (funext ih)

theorem AsksOnly.orElseCut {P : I.Request → Prop} {other x : Program I α} (h : AsksOnly P x)
    (hOther : AsksOnly P other) : AsksOnly P (orElseCut other x) := by
  rw [orElseCut_eq_onEnding]
  refine h.onEnding fun r => ?_
  cases r with
  | none => exact hOther
  | some outcome => exact asksOnly_ofExcept outcome

theorem AsksOnly.within {P : I.Request → Prop} {limit : Duration} {x : Program I α}
    (h : AsksOnly P x) : AsksOnly P (within limit x) :=
  fun _ _ hRun => h (runs_within.1 hRun)

theorem settled_eq_onEnding (x : Program I α) : settled x = onEnding done x := by
  unfold settled
  induction x with
  | done | fail | cutOff => rfl
  | log e rest ih => exact congrArg (log e) ih
  | call deadline request k ih => exact congrArg (call deadline request) (funext ih)
  | clock k ih => exact congrArg clock (funext ih)
  | sleep deadline till k ih => exact congrArg (sleep deadline till) (funext ih)

/-- A program goes on with the way in which another one ends. -/
theorem runs_settled_andThen {β : Type} {x : Program I α} {next : Result α → Program I β}
    {steps : List (Step I)} {ending : Result β} :
    Runs (andThen next (settled x)) steps ending ↔
      ∃ before r after, steps = before ++ after ∧ Runs x before r ∧ Runs (next r) after ending := by
  have hSame : andThen next (settled x) = onEnding next x := by
    rw [settled_eq_onEnding]
    induction x with
    | done | fail | cutOff => rfl
    | log e rest ih => exact congrArg (log e) ih
    | call deadline request k ih => exact congrArg (call deadline request) (funext ih)
    | clock k ih => exact congrArg clock (funext ih)
    | sleep deadline till k ih => exact congrArg (sleep deadline till) (funext ih)
  rw [hSame, runs_onEnding]

/-- Steps in which each question is replaced by a run of what answers it. -/
inductive Expands (answer : (request : I.Request) → Program J (I.Answer request)) :
    List (Step I) → List (Step J) → Prop
  | nil : Expands answer [] []
  | call {request : I.Request} {a : Result (I.Answer request)} {inner rest : List (Step J)}
      {steps : List (Step I)} (hInner : Runs (answer request) inner a)
      (hRest : Expands answer steps rest) :
      Expands answer (.call request a :: steps) (inner ++ rest)
  | clock {now : Duration} {rest : List (Step J)} {steps : List (Step I)}
      (hRest : Expands answer steps rest) :
      Expands answer (.clock now :: steps) (.clock now :: rest)
  | sleep {till : Duration} {slept : Bool} {rest : List (Step J)} {steps : List (Step I)}
      (hRest : Expands answer steps rest) :
      Expands answer (.sleep till slept :: steps) (.sleep till slept :: rest)

namespace Expands

variable {answer : (request : I.Request) → Program J (I.Answer request)} {asked more : List (Step I)}
  {request : I.Request} {a : Result (I.Answer request)} {steps : List (Step J)}

/-- A question comes first, in what it is expanded to. -/
theorem of_call (h : Expands answer (.call request a :: asked) steps) :
    ∃ inner rest, steps = inner ++ rest ∧ Runs (answer request) inner a ∧
      Expands answer asked rest := by
  cases h with
  | call hInner hRest => exact ⟨_, _, rfl, hInner, hRest⟩

theorem of_append (h : Expands answer (asked ++ more) steps) :
    ∃ before after, steps = before ++ after ∧ Expands answer asked before ∧
      Expands answer more after := by
  induction asked generalizing steps with
  | nil => exact ⟨[], steps, rfl, .nil, h⟩
  | cons step asked ih =>
    cases h with
    | call hInner hRest =>
      obtain ⟨before, after, rfl, hBefore, hAfter⟩ := ih hRest
      exact ⟨_ ++ before, after, (List.append_assoc _ _ _).symm, .call hInner hBefore, hAfter⟩
    | clock hRest =>
      obtain ⟨before, after, rfl, hBefore, hAfter⟩ := ih hRest
      exact ⟨_ :: before, after, rfl, .clock hBefore, hAfter⟩
    | sleep hRest =>
      obtain ⟨before, after, rfl, hBefore, hAfter⟩ := ih hRest
      exact ⟨_ :: before, after, rfl, .sleep hBefore, hAfter⟩

end Expands

/-- A single question is expanded to a run of what answers it. -/
theorem expands_singleton {answer : (request : I.Request) → Program J (I.Answer request)}
    {request : I.Request} {a : Result (I.Answer request)} {steps : List (Step J)} :
    Expands answer [.call request a] steps ↔ Runs (answer request) steps a := by
  constructor
  · intro h
    obtain ⟨inner, _, rfl, hInner, ⟨⟩⟩ := h.of_call
    rwa [List.append_nil]
  · intro h
    simpa using Expands.call h .nil

/-- The runs of a program that is answered are those of the program, with each question expanded. -/
theorem runs_answeredBy {answer : (request : I.Request) → Program J (I.Answer request)}
    {x : Program I α} {steps : List (Step J)} {ending : Result α} :
    Runs (answeredBy answer x) steps ending ↔
      ∃ asked, Runs x asked ending ∧ Expands answer asked steps := by
  induction x generalizing steps with
  | done a =>
    simp only [answeredBy, runs_done]
    constructor
    · rintro ⟨rfl, rfl⟩
      exact ⟨[], ⟨rfl, rfl⟩, .nil⟩
    · rintro ⟨_, ⟨rfl, rfl⟩, ⟨⟩⟩
      exact ⟨rfl, rfl⟩
  | fail f =>
    simp only [answeredBy, runs_fail]
    constructor
    · rintro ⟨rfl, rfl⟩
      exact ⟨[], ⟨rfl, rfl⟩, .nil⟩
    · rintro ⟨_, ⟨rfl, rfl⟩, ⟨⟩⟩
      exact ⟨rfl, rfl⟩
  | cutOff =>
    simp only [answeredBy, runs_cutOff]
    constructor
    · rintro ⟨rfl, rfl⟩
      exact ⟨[], ⟨rfl, rfl⟩, .nil⟩
    · rintro ⟨_, ⟨rfl, rfl⟩, ⟨⟩⟩
      exact ⟨rfl, rfl⟩
  | log e rest ih => simp only [answeredBy, runs_log, ih]
  | call deadline request k ih =>
    -- With a deadline the steps of the answer may be cut off then; the runs are the same.
    have hCall : Runs (answeredBy answer (call deadline request k)) steps ending ↔
        ∃ inner a rest, steps = inner ++ rest ∧ Runs (answer request) inner a ∧
          Runs (answeredBy answer (k a)) rest ending := by
      cases deadline with
      | none => exact runs_settled_andThen
      | some limit =>
        rw [answeredBy, bind_eq_andThen, runs_settled_andThen]
        simp only [runs_within]
    rw [hCall]
    constructor
    · rintro ⟨inner, a, rest, rfl, hInner, hRest⟩
      obtain ⟨asked, hAsked, hExpands⟩ := (ih a).1 hRest
      exact ⟨.call request a :: asked, .call a hAsked, .call hInner hExpands⟩
    · rintro ⟨_, hRun, hExpands⟩
      obtain ⟨a, asked, rfl, hAsked⟩ := runs_call.1 hRun
      cases hExpands with
      | call hInner hRest => exact ⟨_, a, _, rfl, hInner, (ih a).2 ⟨asked, hAsked, hRest⟩⟩
  | clock k ih =>
    rw [answeredBy, runs_clock]
    constructor
    · rintro ⟨now, rest, rfl, hRest⟩
      obtain ⟨asked, hAsked, hExpands⟩ := (ih now).1 hRest
      exact ⟨.clock now :: asked, .clock now hAsked, .clock hExpands⟩
    · rintro ⟨_, hRun, hExpands⟩
      obtain ⟨now, asked, rfl, hAsked⟩ := runs_clock.1 hRun
      cases hExpands with
      | clock hRest => exact ⟨now, _, rfl, (ih now).2 ⟨asked, hAsked, hRest⟩⟩
  | sleep deadline till k ih =>
    rw [answeredBy, runs_sleep]
    constructor
    · rintro ⟨slept, rest, rfl, hRest⟩
      obtain ⟨asked, hAsked, hExpands⟩ := (ih slept).1 hRest
      exact ⟨.sleep till slept :: asked, .sleep slept hAsked, .sleep hExpands⟩
    · rintro ⟨_, hRun, hExpands⟩
      obtain ⟨slept, asked, rfl, hAsked⟩ := runs_sleep.1 hRun
      cases hExpands with
      | sleep hRest => exact ⟨slept, _, rfl, (ih slept).2 ⟨asked, hAsked, hRest⟩⟩

end PodWorkspace.Program
