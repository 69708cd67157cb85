import PodWorkspace.Proofs.Program.Answering
import PodWorkspace.Proofs.Time.Duration

/-! Runs of a program in time. Time passes while the program waits: for an answer, or in a sleep. A step
with a deadline may be cut off from then on, and one without a deadline is never cut off. How long an
answer takes and how much longer a sleep lasts than it should is left open, and so is whether an answer
comes in when the deadline has passed already; but who lies down after the deadline is woken at once. -/

namespace PodWorkspace

namespace Program

variable {I : Interface} {α β : Type}

/-- A run of a program that begins at one time and has ended at another. -/
inductive Passes {α : Type} : Duration → Program I α → List (Step I) → Result α → Duration → Prop
  | done {now : Duration} (a : α) : Passes now (.done a) [] (some (.ok a)) now
  | fail {now : Duration} (f : Failure) : Passes now (.fail f) [] (some (.error f)) now
  | cutOff {now : Duration} : Passes now .cutOff [] none now
  | log {now ended : Duration} {e : Event} {rest : Program I α} {steps : List (Step I)}
      {ending : Result α} (hRest : Passes now rest steps ending ended) :
      Passes now (.log e rest) steps ending ended
  | call {now later ended : Duration} {deadline : Option Duration} {request : I.Request}
      {next : Option (Except Failure (I.Answer request)) → Program I α} {steps : List (Step I)}
      {ending : Result α} (answer : Option (Except Failure (I.Answer request)))
      (hLater : now ≤ later) (hCut : answer = none → ∃ limit, deadline = some limit ∧ limit ≤ later)
      (hRest : Passes later (next answer) steps ending ended) :
      Passes now (.call deadline request next) (.call request answer :: steps) ending ended
  | clock {now ended : Duration} {next : Duration → Program I α} {steps : List (Step I)}
      {ending : Result α} (hRest : Passes now (next now) steps ending ended) :
      Passes now (.clock next) (.clock now :: steps) ending ended
  | sleep {now later ended : Duration} {deadline : Option Duration} {till : Duration}
      {next : Bool → Program I α} {steps : List (Step I)} {ending : Result α} (slept : Bool)
      (hLater : now ≤ later)
      (hSlept : slept = true →
        till ≤ later ∧ ∀ limit, deadline = some limit → now ≤ limit ∨ till ≤ now)
      (hCut : slept = false → ∃ limit, deadline = some limit ∧ limit ≤ later)
      (hRest : Passes later (next slept) steps ending ended) :
      Passes now (.sleep deadline till next) (.sleep till slept :: steps) ending ended

section Passes

variable {x : Program I α} {now ended limit : Duration} {steps : List (Step I)} {ending : Result α}

theorem Passes.runs (h : Passes now x steps ending ended) : Runs x steps ending := by
  induction h with
  | done a => exact .done a
  | fail f => exact .fail f
  | cutOff => exact .cutOff
  | log _ ih => exact .log ih
  | call answer _ _ _ ih => exact .call answer ih
  | clock _ ih => exact .clock _ ih
  | sleep slept _ _ _ _ ih => exact .sleep slept ih

theorem Passes.le (h : Passes now x steps ending ended) : now ≤ ended := by
  induction h with
  | done | fail | cutOff => exact Duration.le_refl _
  | log _ ih => exact ih
  | call _ hLater _ _ ih => exact Duration.le_trans hLater ih
  | clock _ ih => exact ih
  | sleep _ hLater _ _ _ ih => exact Duration.le_trans hLater ih

/-- A run of a composed program: the second part begins when the first has ended. -/
theorem Passes.of_onEnding {next : Result α → Program I β} {ending : Result β}
    (h : Passes now (onEnding next x) steps ending ended) :
    ∃ before r between after, steps = before ++ after ∧ Passes now x before r between ∧
      Passes between (next r) after ending ended := by
  induction x generalizing now steps with
  | done a => exact ⟨[], _, now, steps, rfl, .done a, h⟩
  | fail f => exact ⟨[], _, now, steps, rfl, .fail f, h⟩
  | cutOff => exact ⟨[], _, now, steps, rfl, .cutOff, h⟩
  | log e rest ih =>
    cases h with
    | log hRest =>
      obtain ⟨before, r, between, after, rfl, hx, hNext⟩ := ih hRest
      exact ⟨before, r, between, after, rfl, .log hx, hNext⟩
  | call deadline request k ih =>
    cases h with
    | call answer hLater hCut hRest =>
      obtain ⟨before, r, between, after, rfl, hx, hNext⟩ := ih answer hRest
      exact ⟨_ :: before, r, between, after, rfl, .call answer hLater hCut hx, hNext⟩
  | clock k ih =>
    cases h with
    | clock hRest =>
      obtain ⟨before, r, between, after, rfl, hx, hNext⟩ := ih now hRest
      exact ⟨_ :: before, r, between, after, rfl, .clock hx, hNext⟩
  | sleep deadline till k ih =>
    cases h with
    | sleep slept hLater hSlept hCut hRest =>
      obtain ⟨before, r, between, after, rfl, hx, hNext⟩ := ih slept hRest
      exact ⟨_ :: before, r, between, after, rfl, .sleep slept hLater hSlept hCut hx, hNext⟩

theorem Passes.of_andThen {next : α → Program I β} {ending : Result β}
    (h : Passes now (andThen next x) steps ending ended) :
    ∃ before r between after, steps = before ++ after ∧ Passes now x before r between ∧
      Passes between (resume next r) after ending ended := by
  rw [andThen_eq_onEnding] at h
  exact h.of_onEnding

/-- The parts of a run one after the other. -/
theorem Passes.andThen {next : α → Program I β} {before after : List (Step I)} {r : Result α}
    {between : Duration} {ending : Result β} (h : Passes now x before r between)
    (hNext : Passes between (resume next r) after ending ended) :
    Passes now (andThen next x) (before ++ after) ending ended := by
  induction h with
  | done | fail | cutOff => exact hNext
  | log _ ih => exact .log (ih hNext)
  | call answer hLater hCut _ ih => exact .call answer hLater hCut (ih hNext)
  | clock _ ih => exact .clock (ih hNext)
  | sleep slept hLater hSlept hCut _ ih => exact .sleep slept hLater hSlept hCut (ih hNext)

/-- The second part of a program may be replaced by one that has the same runs from then on. -/
theorem Passes.andThen_of_imp {next next' : α → Program I β} {ending : Result β}
    (h : Passes now (Program.andThen next x) steps ending ended)
    (hNext : ∀ ⦃before a between⦄, Passes now x before (some (.ok a)) between →
      ∀ ⦃after⦄, Passes between (next a) after ending ended → Passes between (next' a) after ending ended) :
    Passes now (Program.andThen next' x) steps ending ended := by
  obtain ⟨before, r, between, after, rfl, hx, hRest⟩ := h.of_andThen
  refine hx.andThen ?_
  rcases r with _ | (f | a)
  · exact hRest
  · exact hRest
  · exact hNext hx hRest

theorem within_andThen (limit : Duration) (next : α → Program I β) (x : Program I α) :
    within limit (andThen next x) = andThen (fun a => within limit (next a)) (within limit x) := by
  induction x with
  | done | fail | cutOff => rfl
  | log e rest ih => exact congrArg (log e) ih
  | call deadline request k ih => exact congrArg (call (some limit) request) (funext ih)
  | clock k ih => exact congrArg clock (funext ih)
  | sleep deadline till k ih => exact congrArg (sleep (some limit) till) (funext ih)

/-- Whether a step was cut off. -/
def Step.isCutOff : Step I → Bool
  | .call _ answer => answer.isNone
  | .clock _ => false
  | .sleep _ slept => !slept

/-- Under a deadline, no step is cut off before that. -/
theorem Passes.limit_le (h : Passes now (within limit x) steps ending ended)
    (hCut : ∃ step ∈ steps, step.isCutOff = true) : limit ≤ ended := by
  obtain ⟨step, hMem, hStep⟩ := hCut
  induction x generalizing now steps with
  | done a | fail f | cutOff =>
    cases h
    cases hMem
  | log e rest ih =>
    cases h with
    | log hRest => exact ih hRest hMem
  | call deadline request k ih =>
    cases h with
    | call answer hLater hCut hRest =>
      obtain rfl | hMem := List.mem_cons.1 hMem
      · obtain ⟨_, ⟨⟩, hLimit⟩ := hCut (Option.isNone_iff_eq_none.1 hStep)
        exact Duration.le_trans hLimit hRest.le
      · exact ih answer hRest hMem
  | clock k ih =>
    cases h with
    | clock hRest =>
      obtain rfl | hMem := List.mem_cons.1 hMem
      · cases hStep
      · exact ih now hRest hMem
  | sleep deadline till k ih =>
    cases h with
    | sleep slept hLater hSlept hCut hRest =>
      obtain rfl | hMem := List.mem_cons.1 hMem
      · obtain ⟨_, ⟨⟩, hLimit⟩ := hCut (by simpa [Step.isCutOff] using hStep)
        exact Duration.le_trans hLimit hRest.le
      · exact ih slept hRest hMem

end Passes

/-! ### Programs that come to an end -/

/-- Whatever is answered and however long it takes, the program ends with a value or a failure. -/
def AlwaysEnds (x : Program I α) : Prop :=
  ∀ ⦃now steps ending ended⦄, Passes now x steps ending ended → ending ≠ none

theorem alwaysEnds_done (a : α) : AlwaysEnds (.done a : Program I α) := by
  rintro _ _ _ _ ⟨⟩
  nofun

theorem alwaysEnds_fail (f : Failure) : AlwaysEnds (.fail f : Program I α) := by
  rintro _ _ _ _ ⟨⟩
  nofun

theorem alwaysEnds_log {x : Program I α} (h : AlwaysEnds x) (e : Event) : AlwaysEnds (.log e x) := by
  rintro _ _ _ _ ⟨⟩
  rename_i hRest
  exact h hRest

/-- A question that has no deadline is answered. -/
theorem alwaysEnds_ask (request : I.Request) : AlwaysEnds (ask request : Program I (I.Answer request)) := by
  intro now steps ending ended h
  cases h with
  | call answer hLater hCut hRest =>
    cases answer with
    | none =>
      obtain ⟨_, ⟨⟩, -⟩ := hCut rfl
    | some a =>
      cases a <;> cases hRest <;> nofun

theorem AlwaysEnds.andThen {x : Program I α} {next : α → Program I β} (h : AlwaysEnds x)
    (hNext : ∀ a, AlwaysEnds (next a)) : AlwaysEnds (andThen next x) := by
  intro now steps ending ended hPasses
  obtain ⟨before, r, between, after, -, hx, hRest⟩ := hPasses.of_andThen
  rcases r with _ | (f | a)
  · exact absurd rfl (h hx)
  · exact alwaysEnds_fail f hRest
  · exact hNext a hRest

/-! ### Worlds that answer at once -/

/-- What a world answers to a question, which comes after so many others. -/
abbrev Answers (I : Interface) := Nat → (r : I.Request) → Except Failure (I.Answer r)

/-- The questions that are not cut off are answered as the world says. -/
def IsAnswered : (answers : Answers I) → List (Step I) → Prop
  | _, [] => True
  | answers, .call r a :: steps => (∀ answer, a = some answer → answer = answers 0 r) ∧
      IsAnswered (fun i => answers (i + 1)) steps
  | answers, .clock _ :: steps | answers, .sleep .. :: steps => IsAnswered answers steps

structure Played (I : Interface) (α : Type) where
  steps : List (Step I)
  ending : Result α
  ended : Duration

def Played.after (step : Step I) (p : Played I α) : Played I α :=
  { p with steps := step :: p.steps }

/-- The run in a world that answers at once, and lets a sleep last as long as it should or to its
deadline. -/
def play (answers : Answers I) (now : Duration) : Program I α → Played I α
  | .done a => ⟨[], some (.ok a), now⟩
  | .fail f => ⟨[], some (.error f), now⟩
  | .cutOff => ⟨[], none, now⟩
  | .log _ rest => play answers now rest
  | .call _ request k =>
    let answer := some (answers 0 request)
    (play (fun i => answers (i + 1)) now (k answer)).after (.call request answer)
  | .clock k => (play answers now (k now)).after (.clock now)
  | .sleep deadline till k =>
    match deadline.filter (· < till) with
    | some limit => (play answers (now.max limit) (k false)).after (.sleep till false)
    | none => (play answers (now.max till) (k true)).after (.sleep till true)

theorem isAnswered_play (answers : Answers I) (x : Program I α) (now : Duration) :
    IsAnswered answers (play answers now x).steps := by
  induction x generalizing answers now with
  | done | fail | cutOff => trivial
  | log e rest ih => exact ih answers now
  | call deadline request k ih =>
    refine ⟨?_, ih _ (fun i => answers (i + 1)) now⟩
    rintro answer ⟨⟩
    rfl
  | clock k ih => exact ih now answers now
  | sleep deadline till k ih =>
    unfold play
    split
    · exact ih false answers _
    · exact ih true answers _

theorem passes_play (answers : Answers I) (x : Program I α) (now : Duration) :
    Passes now x (play answers now x).steps (play answers now x).ending (play answers now x).ended := by
  induction x generalizing answers now with
  | done a => exact .done a
  | fail f => exact .fail f
  | cutOff => exact .cutOff
  | log e rest ih => exact .log (ih answers now)
  | call deadline request k ih =>
    exact .call _ (Duration.le_refl now) nofun (ih _ (fun i => answers (i + 1)) now)
  | clock k ih => exact .clock (ih now answers now)
  | sleep deadline till k ih =>
    unfold play
    split
    · rename_i limit hLimit
      obtain ⟨hDeadline, -⟩ := Option.filter_eq_some_iff.1 hLimit
      exact .sleep false (Duration.le_max_left now limit) nofun
        (fun _ => ⟨limit, hDeadline, Duration.le_max_right now limit⟩) (ih false answers _)
    · rename_i hNone
      refine .sleep true (Duration.le_max_left now till) (fun _ => ⟨Duration.le_max_right now till, ?_⟩)
        nofun (ih true answers _)
      rintro limit rfl
      -- The deadline is not before the end of the sleep.
      have hTill : till ≤ limit := by simpa [Duration.not_lt] using hNone
      exact Duration.le_or_le_of_le hTill now

end Program

end PodWorkspace
