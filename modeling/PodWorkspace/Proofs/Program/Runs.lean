import PodWorkspace.Program.Basic

/-! The runs of a program, whatever the outside world answers: the steps that show outside, in their
order, and how the run ends. The lemmas say which runs the ways to combine programs have, so that a
run of a composed program is taken apart into runs of its parts. -/

namespace PodWorkspace.Program

variable {I : Interface} {α β : Type}

/-- A step of a run that shows outside. -/
inductive Step (I : Interface) where
  /-- A question and what is answered, which is nothing when the step was cut off. -/
  | call (request : I.Request) (answer : Option (Except Failure (I.Answer request)))
  /-- A look at the clock. -/
  | clock (now : Duration)
  /-- A sleep, and whether it was long enough. -/
  | sleep (till : Duration) (slept : Bool)

/-- How a run ends: with a value or a failure, or with neither when one of its steps was cut off. -/
abbrev Result (α : Type) := Option (Except Failure α)

/-- A run of a program, for some answers: its steps and its ending. -/
inductive Runs {α : Type} : Program I α → List (Step I) → Result α → Prop where
  | done (a : α) : Runs (.done a) [] (some (.ok a))
  | fail (f : Failure) : Runs (.fail f) [] (some (.error f))
  | cutOff : Runs .cutOff [] none
  | log {e : Event} {rest : Program I α} {steps : List (Step I)} {ending : Result α} :
      Runs rest steps ending → Runs (.log e rest) steps ending
  | call {deadline : Option Duration} {request : I.Request}
      {next : Option (Except Failure (I.Answer request)) → Program I α}
      {steps : List (Step I)} {ending : Result α} (answer) :
      Runs (next answer) steps ending →
        Runs (.call deadline request next) (.call request answer :: steps) ending
  | clock {next : Duration → Program I α} {steps : List (Step I)} {ending : Result α} (now) :
      Runs (next now) steps ending → Runs (.clock next) (.clock now :: steps) ending
  | sleep {deadline : Option Duration} {till : Duration} {next : Bool → Program I α}
      {steps : List (Step I)} {ending : Result α} (slept) :
      Runs (next slept) steps ending →
        Runs (.sleep deadline till next) (.sleep till slept :: steps) ending

variable {steps : List (Step I)}

@[simp] theorem runs_done {a : α} {ending : Result α} :
    Runs (.done a : Program I α) steps ending ↔ steps = [] ∧ ending = some (.ok a) := by
  constructor
  · rintro ⟨⟩
    exact ⟨rfl, rfl⟩
  · rintro ⟨rfl, rfl⟩
    exact .done a

@[simp] theorem runs_fail {f : Failure} {ending : Result α} :
    Runs (.fail f : Program I α) steps ending ↔ steps = [] ∧ ending = some (.error f) := by
  constructor
  · rintro ⟨⟩
    exact ⟨rfl, rfl⟩
  · rintro ⟨rfl, rfl⟩
    exact .fail f

@[simp] theorem runs_cutOff {ending : Result α} :
    Runs (.cutOff : Program I α) steps ending ↔ steps = [] ∧ ending = none := by
  constructor
  · rintro ⟨⟩
    exact ⟨rfl, rfl⟩
  · rintro ⟨rfl, rfl⟩
    exact .cutOff

@[simp] theorem runs_log {e : Event} {rest : Program I α} {ending : Result α} :
    Runs (.log e rest) steps ending ↔ Runs rest steps ending := by
  constructor
  · rintro ⟨⟩
    assumption
  · exact .log

theorem runs_call {deadline : Option Duration} {request : I.Request}
    {next : Option (Except Failure (I.Answer request)) → Program I α} {ending : Result α} :
    Runs (.call deadline request next) steps ending ↔
      ∃ answer rest, steps = .call request answer :: rest ∧ Runs (next answer) rest ending := by
  constructor
  · intro h
    cases h with
    | call answer h => exact ⟨answer, _, rfl, h⟩
  · rintro ⟨answer, rest, rfl, h⟩
    exact .call answer h

theorem runs_clock {next : Duration → Program I α} {ending : Result α} :
    Runs (.clock next) steps ending ↔
      ∃ now rest, steps = .clock now :: rest ∧ Runs (next now) rest ending := by
  constructor
  · intro h
    cases h with
    | clock now h => exact ⟨now, _, rfl, h⟩
  · rintro ⟨now, rest, rfl, h⟩
    exact .clock now h

theorem runs_sleep {deadline : Option Duration} {till : Duration} {next : Bool → Program I α}
    {ending : Result α} :
    Runs (.sleep deadline till next) steps ending ↔
      ∃ slept rest, steps = .sleep till slept :: rest ∧ Runs (next slept) rest ending := by
  constructor
  · intro h
    cases h with
    | sleep slept h => exact ⟨slept, _, rfl, h⟩
  · rintro ⟨slept, rest, rfl, h⟩
    exact .sleep slept h

/-- The program that goes on with the way in which another one ends, whichever that is. All ways to
combine programs are of this form. -/
def onEnding (next : Result α → Program I β) : Program I α → Program I β
  | .done a => next (some (.ok a))
  | .fail f => next (some (.error f))
  | .cutOff => next none
  | .log e rest => .log e (onEnding next rest)
  | .call deadline request k => .call deadline request fun answer => onEnding next (k answer)
  | .clock k => .clock fun now => onEnding next (k now)
  | .sleep deadline till k => .sleep deadline till fun slept => onEnding next (k slept)

theorem Runs.onEnding {x : Program I α} {next : Result α → Program I β}
    {before after : List (Step I)} {r : Result α} {ending : Result β} (h : Runs x before r)
    (hNext : Runs (next r) after ending) : Runs (onEnding next x) (before ++ after) ending := by
  induction h with
  | done | fail | cutOff => exact hNext
  | log _ ih => exact .log (ih hNext)
  | call answer _ ih => exact .call answer (ih hNext)
  | clock now _ ih => exact .clock now (ih hNext)
  | sleep slept _ ih => exact .sleep slept (ih hNext)

theorem runs_onEnding {x : Program I α} {next : Result α → Program I β} {ending : Result β} :
    Runs (onEnding next x) steps ending ↔
      ∃ before r after, steps = before ++ after ∧ Runs x before r ∧ Runs (next r) after ending := by
  constructor
  · intro h
    -- On the program: the run of the whole does not say where that of the first part ends.
    induction x generalizing steps with
    | done a => exact ⟨[], _, steps, rfl, .done a, h⟩
    | fail f => exact ⟨[], _, steps, rfl, .fail f, h⟩
    | cutOff => exact ⟨[], _, steps, rfl, .cutOff, h⟩
    | log e rest ih =>
      obtain ⟨before, r, after, rfl, hx, hn⟩ := ih (runs_log.1 h)
      exact ⟨before, r, after, rfl, .log hx, hn⟩
    | call deadline request k ih =>
      obtain ⟨answer, rest, rfl, hk⟩ := runs_call.1 h
      obtain ⟨before, r, after, rfl, hx, hn⟩ := ih answer hk
      exact ⟨.call request answer :: before, r, after, rfl, .call answer hx, hn⟩
    | clock k ih =>
      obtain ⟨now, rest, rfl, hk⟩ := runs_clock.1 h
      obtain ⟨before, r, after, rfl, hx, hn⟩ := ih now hk
      exact ⟨.clock now :: before, r, after, rfl, .clock now hx, hn⟩
    | sleep deadline till k ih =>
      obtain ⟨slept, rest, rfl, hk⟩ := runs_sleep.1 h
      obtain ⟨before, r, after, rfl, hx, hn⟩ := ih slept hk
      exact ⟨.sleep till slept :: before, r, after, rfl, .sleep slept hx, hn⟩
  · rintro ⟨before, r, after, rfl, hx, hn⟩
    exact hx.onEnding hn

/-- How a sequence goes on when its first part has ended: with the rest on a value, else not. -/
def resume (next : α → Program I β) : Result α → Program I β
  | some (.ok a) => next a
  | some (.error f) => .fail f
  | none => .cutOff

theorem andThen_eq_onEnding (next : α → Program I β) (x : Program I α) :
    andThen next x = onEnding (resume next) x := by
  induction x with
  | done | fail | cutOff => rfl
  | log e rest ih => simp [andThen, onEnding, ih]
  | call deadline request k ih => simp [andThen, onEnding, ih]
  | clock k ih => simp [andThen, onEnding, ih]
  | sleep deadline till k ih => simp [andThen, onEnding, ih]

theorem attempt_eq_onEnding (x : Program I α) :
    attempt x = onEnding (fun r => resume done (r.map .ok)) x := by
  induction x with
  | done | fail | cutOff => rfl
  | log e rest ih => simp [attempt, onEnding, ih]
  | call deadline request k ih => simp [attempt, onEnding, ih]
  | clock k ih => simp [attempt, onEnding, ih]
  | sleep deadline till k ih => simp [attempt, onEnding, ih]

theorem cancellable_eq_onEnding (operation : String) (x : Program I α) :
    cancellable operation x =
      onEnding (fun r => ofExcept (r.getD (.error (.cancelled operation)))) x := by
  unfold cancellable
  induction x with
  | done | fail | cutOff => rfl
  | log e rest ih => simp [orElseCut, onEnding, ih]
  | call deadline request k ih => simp [orElseCut, onEnding, ih]
  | clock k ih => simp [orElseCut, onEnding, ih]
  | sleep deadline till k ih => simp [orElseCut, onEnding, ih]

/-- A run of a sequence is a run of its first part and what follows on that. -/
theorem runs_andThen {x : Program I α} {next : α → Program I β} {ending : Result β} :
    Runs (andThen next x) steps ending ↔
      ∃ before r after, steps = before ++ after ∧ Runs x before r ∧
        Runs (resume next r) after ending := by
  rw [andThen_eq_onEnding, runs_onEnding]

/-- A sequence that has a value: so have both of its parts. -/
theorem runs_andThen_ok {x : Program I α} {next : α → Program I β} {b : β} :
    Runs (andThen next x) steps (some (.ok b)) ↔
      ∃ before a after, steps = before ++ after ∧ Runs x before (some (.ok a)) ∧
        Runs (next a) after (some (.ok b)) := by
  rw [runs_andThen]
  constructor
  · rintro ⟨before, (_ | (f | a)), after, rfl, hx, hn⟩
    · simp [resume] at hn
    · simp [resume] at hn
    · exact ⟨before, a, after, rfl, hx, hn⟩
  · rintro ⟨before, a, after, rfl, hx, hn⟩
    exact ⟨before, _, after, rfl, hx, hn⟩

/-- A sequence whose first part has no value ends as that does. -/
theorem runs_andThen_iff {x : Program I α} {next : α → Program I β} {ending : Result β} :
    Runs (andThen next x) steps ending ↔
      (∃ failure : Option Failure, ending = failure.map .error ∧
        Runs x steps (failure.map .error)) ∨
      ∃ before a after, steps = before ++ after ∧ Runs x before (some (.ok a)) ∧
        Runs (next a) after ending := by
  rw [runs_andThen]
  constructor
  · rintro ⟨before, _ | (f | a), after, rfl, hx, hn⟩
    · obtain ⟨rfl, rfl⟩ := runs_cutOff.1 hn
      exact .inl ⟨none, rfl, by simpa using hx⟩
    · obtain ⟨rfl, rfl⟩ := runs_fail.1 hn
      exact .inl ⟨some f, rfl, by simpa using hx⟩
    · exact .inr ⟨before, a, after, rfl, hx, hn⟩
  · rintro (⟨_ | f, rfl, hx⟩ | ⟨before, a, after, rfl, hx, hn⟩)
    · exact ⟨steps, none, [], by simp, hx, .cutOff⟩
    · exact ⟨steps, some (.error f), [], by simp, hx, .fail f⟩
    · exact ⟨before, some (.ok a), after, rfl, hx, hn⟩

/-! ### The runs of single steps -/

@[simp] theorem runs_note {e : Event} {ending : Result Unit} :
    Runs (note e : Program I Unit) steps ending ↔ steps = [] ∧ ending = some (.ok ()) := by
  simp [note]

@[simp] theorem runs_ofExcept {x : Except Failure α} {ending : Result α} :
    Runs (ofExcept x : Program I α) steps ending ↔ steps = [] ∧ ending = some x := by
  cases x <;> simp [ofExcept]

@[simp] theorem runs_ofLogged {x : Logged α} {ending : Result α} :
    Runs (ofLogged x : Program I α) steps ending ↔ steps = [] ∧ ending = some x.outcome := by
  unfold ofLogged
  induction x.events with
  | nil => simp
  | cons e events ih => simpa using ih

@[simp] theorem runs_now {ending : Result Duration} :
    Runs (now : Program I Duration) steps ending ↔
      ∃ t, steps = [.clock t] ∧ ending = some (.ok t) := by
  rw [now, runs_clock]
  constructor
  · rintro ⟨t, rest, rfl, h⟩
    obtain ⟨rfl, rfl⟩ := runs_done.1 h
    exact ⟨t, rfl, rfl⟩
  · rintro ⟨t, rfl, rfl⟩
    exact ⟨t, [], rfl, .done t⟩

@[simp] theorem runs_sleepUntil {till : Duration} {ending : Result Unit} :
    Runs (sleepUntil till : Program I Unit) steps ending ↔
      ∃ slept, steps = [.sleep till slept] ∧ ending = if slept then some (.ok ()) else none := by
  rw [sleepUntil, runs_sleep]
  constructor
  · rintro ⟨slept, rest, rfl, h⟩
    refine ⟨slept, ?_⟩
    cases slept <;> simp_all
  · rintro ⟨slept, rfl, rfl⟩
    refine ⟨slept, [], rfl, ?_⟩
    cases slept <;> simp

/-- A question ends as it is answered. -/
@[simp] theorem runs_ask {request : I.Request} {ending : Result (I.Answer request)} :
    Runs (ask request) steps ending ↔ steps = [.call request ending] := by
  rw [ask, runs_call]
  constructor
  · rintro ⟨_ | (f | a), rest, rfl, h⟩
    · obtain ⟨rfl, rfl⟩ := runs_cutOff.1 h
      rfl
    · obtain ⟨rfl, rfl⟩ := runs_fail.1 h
      rfl
    · obtain ⟨rfl, rfl⟩ := runs_done.1 h
      rfl
  · rintro rfl
    refine ⟨ending, [], rfl, ?_⟩
    rcases ending with _ | (f | a)
    · exact .cutOff
    · exact .fail f
    · exact .done a

/-! ### Sequences that begin with a single step -/

section Sequences

variable {next : α → Program I β} {ending : Result β}

@[simp] theorem resume_ok (a : α) : resume next (some (.ok a)) = next a := rfl

@[simp] theorem resume_error (f : Failure) : resume next (some (.error f)) = .fail f := rfl

@[simp] theorem resume_none : resume next none = .cutOff := rfl

@[simp] theorem done_andThen (a : α) : andThen next (.done a) = next a := rfl

@[simp] theorem fail_andThen (f : Failure) : andThen next (.fail f) = .fail f := rfl

@[simp] theorem note_andThen {e : Event} {next : Unit → Program I β} :
    andThen next (note e) = .log e (next ()) := rfl

/-- A first part without steps only decides how the sequence goes on. -/
theorem runs_silent_andThen {x : Program I α} {r : Except Failure α}
    (hx : ∀ steps ending, Runs x steps ending ↔ steps = [] ∧ ending = some r) :
    Runs (andThen next x) steps ending ↔ Runs (resume next (some r)) steps ending := by
  rw [runs_andThen]
  constructor
  · rintro ⟨before, _, after, rfl, hBefore, h⟩
    obtain ⟨rfl, rfl⟩ := (hx _ _).1 hBefore
    exact h
  · intro h
    exact ⟨[], _, steps, rfl, (hx _ _).2 ⟨rfl, rfl⟩, h⟩

theorem runs_ofExcept_andThen {x : Except Failure α} :
    Runs (andThen next (ofExcept x)) steps ending ↔ Runs (resume next (some x)) steps ending :=
  runs_silent_andThen fun _ _ => runs_ofExcept

theorem runs_ofLogged_andThen {x : Logged α} :
    Runs (andThen next (ofLogged x)) steps ending ↔
      Runs (resume next (some x.outcome)) steps ending :=
  runs_silent_andThen fun _ _ => runs_ofLogged

theorem runs_now_andThen {next : Duration → Program I β} :
    Runs (andThen next now) steps ending ↔
      ∃ t rest, steps = .clock t :: rest ∧ Runs (next t) rest ending :=
  runs_clock

end Sequences

/-! ### Programs that look at an ending -/

theorem runs_attempt {x : Program I α} {ending : Result (Except Failure α)} :
    Runs (attempt x) steps ending ↔ ∃ r : Result α, ending = r.map .ok ∧ Runs x steps r := by
  rw [attempt_eq_onEnding, runs_onEnding]
  constructor
  · rintro ⟨before, r, after, rfl, hx, hn⟩
    refine ⟨r, ?_⟩
    cases r <;> simp_all [resume]
  · rintro ⟨r, rfl, hx⟩
    refine ⟨steps, r, [], by simp, hx, ?_⟩
    cases r <;> simp [resume]

/-- A run of a program that counts as cancelled when it is cut off. -/
theorem runs_cancellable {operation : String} {x : Program I α} {ending : Result α} :
    Runs (cancellable operation x) steps ending ↔
      ∃ r : Result α, ending = some (r.getD (.error (.cancelled operation))) ∧ Runs x steps r := by
  rw [cancellable_eq_onEnding, runs_onEnding]
  constructor
  · rintro ⟨before, r, after, rfl, hx, hn⟩
    obtain ⟨rfl, rfl⟩ := runs_ofExcept.1 hn
    exact ⟨r, rfl, by simpa using hx⟩
  · rintro ⟨r, rfl, hx⟩
    exact ⟨steps, r, [], by simp, hx, by simp⟩

/-! ### What a program asks -/

/-- Whatever the answers are, all questions of the program satisfy `P`. -/
def AsksOnly (P : I.Request → Prop) (x : Program I α) : Prop :=
  ∀ ⦃steps ending⦄, Runs x steps ending → ∀ r a, .call r a ∈ steps → P r

section AsksOnly

variable {P : I.Request → Prop}

theorem AsksOnly.mono {Q : I.Request → Prop} {x : Program I α} (h : AsksOnly P x)
    (hPQ : ∀ r, P r → Q r) : AsksOnly Q x :=
  fun _ _ hRun r a hMem => hPQ r (h hRun r a hMem)

theorem asksOnly_done (a : α) : AsksOnly P (.done a : Program I α) := by
  rintro steps ending ⟨⟩ r a h
  simp at h

theorem asksOnly_fail (f : Failure) : AsksOnly P (.fail f : Program I α) := by
  rintro steps ending ⟨⟩ r a h
  simp at h

theorem asksOnly_note (e : Event) : AsksOnly P (note e : Program I Unit) := by
  intro steps ending hRun r a h
  simp [(runs_note.1 hRun).1] at h

theorem asksOnly_ofExcept (x : Except Failure α) : AsksOnly P (ofExcept x : Program I α) := by
  intro steps ending hRun r a h
  simp [(runs_ofExcept.1 hRun).1] at h

theorem asksOnly_ofLogged (x : Logged α) : AsksOnly P (ofLogged x : Program I α) := by
  intro steps ending hRun r a h
  simp [(runs_ofLogged.1 hRun).1] at h

theorem asksOnly_now : AsksOnly P (now : Program I Duration) := by
  intro steps ending hRun r a h
  obtain ⟨t, rfl, -⟩ := runs_now.1 hRun
  simp at h

theorem asksOnly_sleepUntil (till : Duration) : AsksOnly P (sleepUntil till : Program I Unit) := by
  intro steps ending hRun r a h
  obtain ⟨slept, rfl, -⟩ := runs_sleepUntil.1 hRun
  simp at h

theorem asksOnly_ask {request : I.Request} (hP : P request) :
    AsksOnly P (ask request : Program I (I.Answer request)) := by
  intro steps ending hRun r a h
  rw [runs_ask.1 hRun, List.mem_singleton] at h
  cases h
  exact hP

theorem AsksOnly.onEnding {x : Program I α} {next : Result α → Program I β} (h : AsksOnly P x)
    (hNext : ∀ r, AsksOnly P (next r)) : AsksOnly P (onEnding next x) := by
  intro steps ending hRun r a hMem
  obtain ⟨before, e, after, rfl, hx, hn⟩ := runs_onEnding.1 hRun
  rcases List.mem_append.1 hMem with hMem | hMem
  · exact h hx r a hMem
  · exact hNext e hn r a hMem

theorem AsksOnly.andThen {x : Program I α} {next : α → Program I β} (h : AsksOnly P x)
    (hNext : ∀ a, AsksOnly P (next a)) : AsksOnly P (andThen next x) := by
  rw [andThen_eq_onEnding]
  refine h.onEnding fun r => ?_
  rcases r with _ | (f | a)
  · rintro steps ending ⟨⟩ r a h
    simp at h
  · exact asksOnly_fail f
  · exact hNext a

/-- A sequence goes on with the value that is given, if there is one. -/
theorem asksOnly_ofExcept_andThen {x : Except Failure α} {next : α → Program I β}
    (h : ∀ a, x = .ok a → AsksOnly P (next a)) : AsksOnly P (andThen next (ofExcept x)) := by
  intro steps ending hRun
  rw [runs_ofExcept_andThen] at hRun
  cases x with
  | error f => exact asksOnly_fail f hRun
  | ok a => exact h a rfl hRun

theorem asksOnly_ofLogged_andThen {x : Logged α} {next : α → Program I β}
    (h : ∀ a, x.outcome = .ok a → AsksOnly P (next a)) : AsksOnly P (andThen next (ofLogged x)) := by
  intro steps ending hRun
  rw [runs_ofLogged_andThen, ← runs_ofExcept_andThen] at hRun
  exact asksOnly_ofExcept_andThen h hRun

theorem AsksOnly.attempt {x : Program I α} (h : AsksOnly P x) : AsksOnly P (attempt x) := by
  intro steps ending hRun r a hMem
  obtain ⟨e, -, hx⟩ := runs_attempt.1 hRun
  exact h hx r a hMem

theorem AsksOnly.cancellable {x : Program I α} (h : AsksOnly P x) (operation : String) :
    AsksOnly P (cancellable operation x) := by
  intro steps ending hRun r a hMem
  obtain ⟨e, -, hx⟩ := runs_cancellable.1 hRun
  exact h hx r a hMem

end AsksOnly

/-! ### Counting questions -/

theorem mem_of_mem_cons_call {r other : I.Request} {a : Option (Except Failure (I.Answer r))}
    {a' : Option (Except Failure (I.Answer other))}
    (h : Step.call r a ∈ Step.call other a' :: steps) (hOther : r ≠ other) :
    Step.call r a ∈ steps := by
  rcases List.mem_cons.1 h with hHead | hMem
  · cases hHead
    exact absurd rfl hOther
  · exact hMem

/-- Whether a step asks a question of a kind. -/
def Step.asks (kind : I.Request → Bool) : Step I → Bool
  | .call request _ => kind request
  | .clock _ | .sleep .. => false

/-- How often a question of a kind is asked. -/
def timesAsked (kind : I.Request → Bool) (steps : List (Step I)) : Nat :=
  steps.countP (·.asks kind)

@[simp] theorem timesAsked_append (kind : I.Request → Bool) (before after : List (Step I)) :
    timesAsked kind (before ++ after) = timesAsked kind before + timesAsked kind after :=
  List.countP_append

@[simp] theorem timesAsked_cons (kind : I.Request → Bool) (step : Step I) :
    timesAsked kind (step :: steps) = timesAsked kind steps + if step.asks kind then 1 else 0 :=
  List.countP_cons

@[simp] theorem timesAsked_nil (kind : I.Request → Bool) :
    timesAsked kind ([] : List (Step I)) = 0 := rfl

@[simp] theorem asks_call (kind : I.Request → Bool) (request : I.Request)
    (answer : Option (Except Failure (I.Answer request))) :
    (Step.call request answer).asks kind = kind request := rfl

@[simp] theorem asks_clock (kind : I.Request → Bool) (now : Duration) :
    (Step.clock now : Step I).asks kind = false := rfl

@[simp] theorem asks_sleep (kind : I.Request → Bool) (till : Duration) (slept : Bool) :
    (Step.sleep till slept : Step I).asks kind = false := rfl

theorem timesAsked_eq_zero {kind : I.Request → Bool} :
    timesAsked kind steps = 0 ↔ ∀ r a, .call r a ∈ steps → kind r = false := by
  simp only [timesAsked, List.countP_eq_zero]
  constructor
  · intro h r a hMem
    simpa [Step.asks] using h _ hMem
  · rintro h (⟨r, a⟩ | _ | _) hMem
    · simpa [Step.asks] using h r a hMem
    · simp [Step.asks]
    · simp [Step.asks]

/-- A program that asks nothing of a kind. -/
theorem AsksOnly.timesAsked {P : I.Request → Prop} {kind : I.Request → Bool} {x : Program I α}
    {ending : Result α} (h : AsksOnly P x) (hRun : Runs x steps ending)
    (hKind : ∀ r, P r → kind r = false) : timesAsked kind steps = 0 :=
  timesAsked_eq_zero.2 fun r a hMem => hKind r (h hRun r a hMem)

/-- Where a question of a kind is asked the steps can be cut at it. -/
theorem exists_call_of_timesAsked {kind : I.Request → Bool} (h : 0 < timesAsked kind steps) :
    ∃ before r a after, steps = before ++ .call r a :: after ∧ kind r = true := by
  obtain ⟨step, hMem, hAsks⟩ := List.countP_pos_iff.1 h
  obtain ⟨before, after, rfl⟩ := List.append_of_mem hMem
  cases step with
  | call r a => exact ⟨before, r, a, after, rfl, hAsks⟩
  | clock | sleep => cases hAsks

/-- There is one first step that asks a question of a kind. -/
theorem eq_of_first_asked {kind : I.Request → Bool} {first second more others : List (Step I)}
    {x y : Step I} (hFirst : timesAsked kind first = 0) (hSecond : timesAsked kind second = 0)
    (hx : x.asks kind = true) (hy : y.asks kind = true)
    (h : first ++ x :: more = second ++ y :: others) :
    first = second ∧ x = y ∧ more = others := by
  -- Where one of the lists is the shorter one, its end is a step of the other that asks nothing.
  induction first generalizing second with
  | nil =>
    cases second with
    | nil => simpa using h
    | cons z second =>
      obtain ⟨rfl, -⟩ := List.cons.inj h
      simp [hx] at hSecond
  | cons z first ih =>
    cases second with
    | nil =>
      obtain ⟨rfl, -⟩ := List.cons.inj h
      simp [hy] at hFirst
    | cons z' second =>
      obtain ⟨rfl, hTail⟩ := List.cons.inj h
      rw [timesAsked_cons] at hFirst hSecond
      obtain ⟨rfl, hRest⟩ := ih (by omega) (by omega) hTail
      exact ⟨rfl, hRest⟩

/-- A step that alone asks a question of a kind is the only one that does. -/
theorem eq_of_only_asked {kind : I.Request → Bool} {first second more others : List (Step I)}
    {x y : Step I} (hFirst : timesAsked kind first = 0) (hMore : timesAsked kind more = 0)
    (hx : x.asks kind = true) (hy : y.asks kind = true)
    (h : first ++ x :: more = second ++ y :: others) : first = second ∧ x = y ∧ more = others := by
  have hCount := congrArg (timesAsked kind) h
  simp only [timesAsked_append, timesAsked_cons, hx, hy, hFirst, hMore, if_true] at hCount
  exact eq_of_first_asked hFirst (by omega) hx hy h

end PodWorkspace.Program
