import PodWorkspace.Proofs.Program.Runs

/-! Executions of a program that may be cancelled. Whoever cancels a program sets a token, and does so
before the program begins or while it waits. A step watches the token when the program says how to go
on in case that the step is cut off: such a step is not begun when the token is set, and it is cut off
when that is set in its course. A step that does not watch the token takes no notice of it. The main
results say what a cancellation comes to, from what the program does after each of its steps is cut
off. -/

namespace PodWorkspace.Program

variable {I : Interface} {α β : Type}

/-- What shows of an execution. -/
inductive Moment (I : Interface) where
  /-- A call is started. -/
  | started (request : I.Request)
  | answered (request : I.Request) (answer : Except Failure (I.Answer request))
  /-- A sleep begins. -/
  | asleep (till : Duration)
  | awake
  /-- The token is set. -/
  | cancelled

/-- Whether a program has something left to do. -/
def GoesOn : Program I α → Prop
  | cutOff => False
  | _ => True

/-- The ways in which a step goes: whether the token is set before it, what shows of it, what it comes
to, which is nothing when it is cut off, and whether the token is set after it. -/
inductive Course (watches : Prop) (begun : Moment I) (ended : β → Moment I) :
    Bool → List (Moment I) → Option β → Bool → Prop
  | refused (hWatches : watches) : Course watches begun ended true [] none true
  | interrupted (hWatches : watches) :
      Course watches begun ended false [begun, .cancelled] none true
  | completed {isSet : Bool} (b : β) (hBegun : isSet = true → ¬watches) :
      Course watches begun ended isSet [begun, ended b] (some b) isSet
  /-- The token is set in the course of a step that takes no notice of it. -/
  | unnoticed (b : β) (hWatches : ¬watches) :
      Course watches begun ended false [begun, .cancelled, ended b] (some b) true

/-- An execution of a program, for some answers and with the token set or not at its beginning: what
shows of it, and how it ends. -/
inductive Executes : Bool → Program I α → List (Moment I) → Result α → Prop
  | done {isSet : Bool} (a : α) : Executes isSet (.done a) [] (some (.ok a))
  | fail {isSet : Bool} (f : Failure) : Executes isSet (.fail f) [] (some (.error f))
  | cutOff {isSet : Bool} : Executes isSet .cutOff [] none
  | log {isSet : Bool} {e : Event} {rest : Program I α} {moments : List (Moment I)}
      {ending : Result α} (hRest : Executes isSet rest moments ending) :
      Executes isSet (.log e rest) moments ending
  | clock {isSet : Bool} {next : Duration → Program I α} {moments : List (Moment I)}
      {ending : Result α} (now : Duration) (hRest : Executes isSet (next now) moments ending) :
      Executes isSet (.clock next) moments ending
  | call {isSet isSet' : Bool} {deadline : Option Duration} {request : I.Request}
      {next : Option (Except Failure (I.Answer request)) → Program I α}
      {shown moments : List (Moment I)} {answer : Option (Except Failure (I.Answer request))}
      {ending : Result α}
      (hCourse : Course (GoesOn (next none)) (.started request) (.answered request) isSet shown
        answer isSet')
      (hRest : Executes isSet' (next answer) moments ending) :
      Executes isSet (.call deadline request next) (shown ++ moments) ending
  | sleep {isSet isSet' : Bool} {deadline : Option Duration} {till : Duration}
      {next : Bool → Program I α} {shown moments : List (Moment I)} {slept : Option Unit}
      {ending : Result α}
      (hCourse : Course (GoesOn (next false)) (.asleep till) (fun _ => .awake) isSet shown slept
        isSet')
      (hRest : Executes isSet' (next slept.isSome) moments ending) :
      Executes isSet (.sleep deadline till next) (shown ++ moments) ending

/-- What shows of a program, which is not cancelled, up to the beginning of a step of its. -/
inductive Waits : Program I α → List (Moment I) → Prop
  | log {e : Event} {rest : Program I α} {moments : List (Moment I)} (hRest : Waits rest moments) :
      Waits (.log e rest) moments
  | clock {next : Duration → Program I α} {moments : List (Moment I)} (now : Duration)
      (hRest : Waits (next now) moments) : Waits (.clock next) moments
  | started {deadline : Option Duration} {request : I.Request}
      {next : Option (Except Failure (I.Answer request)) → Program I α} :
      Waits (.call deadline request next) [.started request]
  | answered {deadline : Option Duration} {request : I.Request}
      {next : Option (Except Failure (I.Answer request)) → Program I α} {moments : List (Moment I)}
      (answer : Except Failure (I.Answer request)) (hRest : Waits (next (some answer)) moments) :
      Waits (.call deadline request next) (.started request :: .answered request answer :: moments)
  | asleep {deadline : Option Duration} {till : Duration} {next : Bool → Program I α} :
      Waits (.sleep deadline till next) [.asleep till]
  | awake {deadline : Option Duration} {till : Duration} {next : Bool → Program I α}
      {moments : List (Moment I)} (hRest : Waits (next true) moments) :
      Waits (.sleep deadline till next) (.asleep till :: .awake :: moments)

section Steps

variable {deadline : Option Duration} {request : I.Request} {till : Duration}
  {next : Option (Except Failure (I.Answer request)) → Program I α} {wake : Bool → Program I α}
  {moments : List (Moment I)} {ending : Result α}

theorem Executes.call_refused (hWatches : GoesOn (next none))
    (hRest : Executes true (next none) moments ending) :
    Executes true (.call deadline request next) moments ending := by
  have hCourse : Course (GoesOn (next none)) (.started request) (.answered request) true [] none
      true := .refused hWatches
  exact .call hCourse hRest

theorem Executes.call_interrupted (hWatches : GoesOn (next none))
    (hRest : Executes true (next none) moments ending) :
    Executes false (.call deadline request next) (.started request :: .cancelled :: moments)
      ending := by
  have hCourse : Course (GoesOn (next none)) (.started request) (.answered request) false
      [.started request, .cancelled] none true := .interrupted hWatches
  exact .call hCourse hRest

theorem Executes.call_completed (answer : Except Failure (I.Answer request))
    (hRest : Executes false (next (some answer)) moments ending) :
    Executes false (.call deadline request next)
      (.started request :: .answered request answer :: moments) ending := by
  have hCourse : Course (GoesOn (next none)) (.started request) (.answered request) false
      [.started request, .answered request answer] (some answer) false := .completed answer (by simp)
  exact .call hCourse hRest

theorem Executes.sleep_refused (hWatches : GoesOn (wake false))
    (hRest : Executes true (wake false) moments ending) :
    Executes true (.sleep deadline till wake) moments ending := by
  have hCourse : Course (GoesOn (wake false)) (.asleep till : Moment I) (fun _ => .awake) true []
      (none : Option Unit) true := .refused hWatches
  exact .sleep hCourse hRest

theorem Executes.sleep_interrupted (hWatches : GoesOn (wake false))
    (hRest : Executes true (wake false) moments ending) :
    Executes false (.sleep deadline till wake) (.asleep till :: .cancelled :: moments) ending := by
  have hCourse : Course (GoesOn (wake false)) (.asleep till : Moment I) (fun _ => .awake) false
      [.asleep till, .cancelled] (none : Option Unit) true := .interrupted hWatches
  exact .sleep hCourse hRest

theorem Executes.sleep_completed (hRest : Executes false (wake true) moments ending) :
    Executes false (.sleep deadline till wake) (.asleep till :: .awake :: moments) ending := by
  have hCourse : Course (GoesOn (wake false)) (.asleep till : Moment I) (fun _ => .awake) false
      [.asleep till, .awake] (some ()) false := .completed () (by simp)
  exact .sleep hCourse hRest

end Steps

/-! ### What a program does once it is cancelled -/

/-- Whether a program ends as `Q` says when all of its steps are cut off. -/
def HaltsWith (Q : Result α → Prop) : Program I α → Prop
  | done a => Q (some (.ok a))
  | fail f => Q (some (.error f))
  | cutOff => Q none
  | log _ rest => HaltsWith Q rest
  | call _ _ next => HaltsWith Q (next none)
  | clock next => ∀ now, HaltsWith Q (next now)
  | sleep _ _ next => HaltsWith Q (next false)

/-- Whether a program ends as `Q` says wherever one of its steps is cut off, together with all steps
after that. The steps have no deadlines of their own. -/
def Heeds (Q : Result α → Prop) : Program I α → Prop
  | done _ | fail _ | cutOff => True
  | log _ rest => Heeds Q rest
  | call deadline _ next => deadline = none ∧ HaltsWith Q (next none) ∧ ∀ a, Heeds Q (next (some a))
  | clock next => ∀ now, Heeds Q (next now)
  | sleep deadline _ next => deadline = none ∧ HaltsWith Q (next false) ∧ Heeds Q (next true)

section Soundness

variable {Q : Result α → Prop} {x : Program I α} {moments shown : List (Moment I)}
  {begun : Moment I} {ending : Result α} {watches : Prop} {b? : Option β} {ended : β → Moment I}
  {isSet : Bool}

/-- A step that watches the token is not begun when that is set. -/
theorem Course.of_set (h : Course watches begun ended true shown b? isSet) (hWatches : watches) :
    shown = [] ∧ b? = none ∧ isSet = true := by
  cases h with
  | refused => exact ⟨rfl, rfl, rfl⟩
  | completed b hBegun => exact absurd hWatches (hBegun rfl)

/-- A step that watches the token is cut off when that is set in its course. -/
theorem Course.of_unset (h : Course watches begun ended false shown b? isSet) (hWatches : watches) :
    (shown = [begun, .cancelled] ∧ b? = none ∧ isSet = true) ∨
      ∃ b, shown = [begun, ended b] ∧ b? = some b ∧ isSet = false := by
  cases h with
  | interrupted => exact .inl ⟨rfl, rfl, rfl⟩
  | completed b => exact .inr ⟨b, rfl, rfl, rfl⟩
  | unnoticed b hUnwatched => exact absurd hWatches hUnwatched

/-- A program that does not just stop when it is cut off has something left to do then. -/
theorem HaltsWith.goesOn (h : HaltsWith Q x) (hQ : ¬Q none) : GoesOn x := by
  cases x with
  | cutOff => exact hQ h
  | _ => trivial

/-- Once it is cancelled, a program begins nothing more and ends as it does when all of its steps are
cut off. -/
theorem HaltsWith.of_executes (h : HaltsWith Q x) (hQ : ¬Q none)
    (hExec : Executes true x moments ending) : moments = [] ∧ Q ending := by
  generalize hSet : true = isSet at hExec
  induction hExec with
  | done | fail | cutOff => exact ⟨rfl, h⟩
  | log _ ih => exact ih h hSet
  | clock now _ ih => exact ih (h now) hSet
  | call hCourse _ ih | sleep hCourse _ ih =>
    subst hSet
    obtain ⟨rfl, rfl, rfl⟩ := hCourse.of_set (HaltsWith.goesOn (Q := Q) h hQ)
    exact ih h rfl

/-- A program that is cancelled comes to an end at once. -/
theorem HaltsWith.exists_executes (h : HaltsWith Q x) (hQ : ¬Q none) :
    ∃ ending, Executes true x [] ending := by
  induction x with
  | done a => exact ⟨_, .done a⟩
  | fail f => exact ⟨_, .fail f⟩
  | cutOff => exact ⟨_, .cutOff⟩
  | log e rest ih =>
    obtain ⟨ending, hRest⟩ := ih h
    exact ⟨ending, .log hRest⟩
  | clock next ih =>
    obtain ⟨ending, hRest⟩ := ih ⟨0⟩ (h ⟨0⟩)
    exact ⟨ending, .clock ⟨0⟩ hRest⟩
  | call deadline request next ih =>
    obtain ⟨ending, hRest⟩ := ih none h
    exact ⟨ending, .call_refused (HaltsWith.goesOn (Q := Q) h hQ) hRest⟩
  | sleep deadline till next ih =>
    obtain ⟨ending, hRest⟩ := ih false h
    exact ⟨ending, .sleep_refused (HaltsWith.goesOn (Q := Q) h hQ) hRest⟩

/-- A program that heeds the token is cancelled while it waits, and that is the last that shows of
it. -/
theorem Heeds.of_executes (h : Heeds Q x) (hQ : ¬Q none) (hExec : Executes false x moments ending)
    (hCancelled : .cancelled ∈ moments) :
    ∃ before, moments = before ++ [.cancelled] ∧ Waits x before ∧ Q ending := by
  generalize hSet : false = isSet at hExec
  induction hExec with
  | done | fail | cutOff => cases hCancelled
  | log _ ih =>
    obtain ⟨before, rfl, hWaits, hEnding⟩ := ih h hCancelled hSet
    exact ⟨before, rfl, .log hWaits, hEnding⟩
  | clock now _ ih =>
    obtain ⟨before, rfl, hWaits, hEnding⟩ := ih (h now) hCancelled hSet
    exact ⟨before, rfl, .clock now hWaits, hEnding⟩
  | call hCourse hRest ih =>
    subst hSet
    obtain ⟨-, hHalts, hNext⟩ := h
    obtain ⟨rfl, rfl, rfl⟩ | ⟨answer, rfl, rfl, rfl⟩ := hCourse.of_unset (hHalts.goesOn hQ)
    · obtain ⟨rfl, hEnding⟩ := hHalts.of_executes hQ hRest
      exact ⟨[_], rfl, .started, hEnding⟩
    · obtain ⟨before, rfl, hWaits, hEnding⟩ := ih (hNext answer) (by simpa using hCancelled) rfl
      exact ⟨_ :: _ :: before, rfl, .answered answer hWaits, hEnding⟩
  | sleep hCourse hRest ih =>
    subst hSet
    obtain ⟨-, hHalts, hNext⟩ := h
    obtain ⟨rfl, rfl, rfl⟩ | ⟨_, rfl, rfl, rfl⟩ := hCourse.of_unset (hHalts.goesOn hQ)
    · obtain ⟨rfl, hEnding⟩ := hHalts.of_executes hQ hRest
      exact ⟨[_], rfl, .asleep, hEnding⟩
    · obtain ⟨before, rfl, hWaits, hEnding⟩ := ih hNext (by simpa using hCancelled) rfl
      exact ⟨_ :: _ :: before, rfl, .awake hWaits, hEnding⟩

/-- Whenever it waits, a program that heeds the token can be cancelled, and comes to an end then. -/
theorem Heeds.exists_executes (h : Heeds Q x) (hQ : ¬Q none) (hWaits : Waits x moments) :
    ∃ ending, Executes false x (moments ++ [.cancelled]) ending := by
  induction hWaits with
  | log _ ih =>
    obtain ⟨ending, hRest⟩ := ih h
    exact ⟨ending, .log hRest⟩
  | clock now _ ih =>
    obtain ⟨ending, hRest⟩ := ih (h now)
    exact ⟨ending, .clock now hRest⟩
  | started =>
    obtain ⟨ending, hRest⟩ := HaltsWith.exists_executes h.2.1 hQ
    exact ⟨ending, .call_interrupted (h.2.1.goesOn hQ) hRest⟩
  | answered answer _ ih =>
    obtain ⟨ending, hRest⟩ := ih (h.2.2 answer)
    exact ⟨ending, .call_completed answer hRest⟩
  | asleep =>
    obtain ⟨ending, hRest⟩ := HaltsWith.exists_executes h.2.1 hQ
    exact ⟨ending, .sleep_interrupted (h.2.1.goesOn hQ) hRest⟩
  | awake _ ih =>
    obtain ⟨ending, hRest⟩ := ih h.2.2
    exact ⟨ending, .sleep_completed hRest⟩

/-- What a cancellation of a program comes to, whenever it comes: nothing is begun after it, and the
program ends as `Q` says. -/
structure CancelsWith (Q : Result α → Prop) (x : Program I α) : Prop where
  /-- A program that is cancelled before it begins comes to an end. -/
  refuses : ∃ ending, Executes true x [] ending
  of_refused : ∀ ⦃moments ending⦄, Executes true x moments ending → moments = [] ∧ Q ending
  /-- A program that is cancelled while it waits comes to an end. -/
  stops : ∀ ⦃before⦄, Waits x before → ∃ ending, Executes false x (before ++ [.cancelled]) ending
  of_stopped : ∀ ⦃moments ending⦄, Executes false x moments ending → .cancelled ∈ moments →
    ∃ before, moments = before ++ [.cancelled] ∧ Waits x before ∧ Q ending

theorem Heeds.cancelsWith (h : Heeds Q x) (hHalts : HaltsWith Q x) (hQ : ¬Q none) :
    CancelsWith Q x where
  refuses := HaltsWith.exists_executes hHalts hQ
  of_refused _ _ := hHalts.of_executes hQ
  stops _ := h.exists_executes hQ
  of_stopped _ _ := h.of_executes hQ

end Soundness

/-! ### Composed programs -/

section Composition

variable {Q R : Result α → Prop} {T : Result β → Prop} {x : Program I α}

theorem HaltsWith.mono (h : HaltsWith Q x) (hQR : ∀ r, Q r → R r) : HaltsWith R x := by
  induction x with
  | done | fail | cutOff => exact hQR _ h
  | log _ _ ih => exact ih h
  | call _ _ _ ih => exact ih none h
  | clock _ ih => exact fun now => ih now (h now)
  | sleep _ _ _ ih => exact ih false h

theorem Heeds.mono (h : Heeds Q x) (hQR : ∀ r, Q r → R r) : Heeds R x := by
  induction x with
  | done | fail | cutOff => trivial
  | log _ _ ih => exact ih h
  | call _ _ _ ih => exact ⟨h.1, h.2.1.mono hQR, fun a => ih (some a) (h.2.2 a)⟩
  | clock _ ih => exact fun now => ih now (h now)
  | sleep _ _ _ ih => exact ⟨h.1, h.2.1.mono hQR, ih true h.2.2⟩

theorem haltsWith_onEnding {next : Result α → Program I β} :
    HaltsWith T (onEnding next x) ↔ HaltsWith (fun r => HaltsWith T (next r)) x := by
  induction x with
  | done | fail | cutOff => exact Iff.rfl
  | log _ _ ih => exact ih
  | call _ _ _ ih => exact ih none
  | clock _ ih => exact forall_congr' ih
  | sleep _ _ _ ih => exact ih false

/-- What goes on with the ending of a first part also does so when that is cancelled. -/
theorem Heeds.onEnding {next : Result α → Program I β} (h : Heeds Q x)
    (hHalts : ∀ r, Q r → HaltsWith T (next r)) (hNext : ∀ r, Heeds T (next r)) :
    Heeds T (onEnding next x) := by
  induction x with
  | done | fail | cutOff => exact hNext _
  | log _ _ ih => exact ih h
  | call _ _ _ ih =>
    exact ⟨h.1, haltsWith_onEnding.2 (h.2.1.mono hHalts), fun a => ih (some a) (h.2.2 a)⟩
  | clock _ ih => exact fun now => ih now (h now)
  | sleep _ _ _ ih => exact ⟨h.1, haltsWith_onEnding.2 (h.2.1.mono hHalts), ih true h.2.2⟩

theorem haltsWith_andThen {next : α → Program I β} :
    HaltsWith T (andThen next x) ↔ HaltsWith (fun r => HaltsWith T (resume next r)) x := by
  rw [andThen_eq_onEnding, haltsWith_onEnding]

theorem Heeds.andThen {next : α → Program I β} (h : Heeds Q x)
    (hHalts : ∀ r, Q r → HaltsWith T (resume next r)) (hNext : ∀ a, Heeds T (next a)) :
    Heeds T (andThen next x) := by
  rw [andThen_eq_onEnding]
  refine h.onEnding hHalts fun r => ?_
  rcases r with _ | (f | a)
  · trivial
  · trivial
  · exact hNext a

theorem heeds_done (a : α) : Heeds Q (done a : Program I α) := trivial

theorem heeds_fail (f : Failure) : Heeds Q (fail f : Program I α) := trivial

theorem heeds_note (e : Event) {Q : Result Unit → Prop} : Heeds Q (note e : Program I Unit) := trivial

theorem heeds_now {Q : Result Duration → Prop} : Heeds Q (now : Program I Duration) := fun _ => trivial

theorem heeds_ofExcept (r : Except Failure α) : Heeds Q (ofExcept r : Program I α) := by
  cases r <;> trivial

theorem heeds_ofLogged (r : Logged α) : Heeds Q (ofLogged r : Program I α) := by
  unfold ofLogged
  induction r.events with
  | nil => exact heeds_ofExcept r.outcome
  | cons _ _ ih => exact ih

end Composition

/-! ### Programs that stop for a cause -/

/-- Whether a run ends without a value, for a cause: its failure, or none when it is cut off. -/
def Stops (cause : Option Failure → Prop) : Result α → Prop
  | some (.ok _) => False
  | some (.error f) => cause (some f)
  | none => cause none

abbrev IsCutOff : Result α → Prop := Stops (· = none)

abbrev IsCancelled : Result α → Prop := Stops (·.any Failure.isCancelled = true)

section Stopping

variable {cause : Option Failure → Prop} {T : Result β → Prop} {x : Program I α}

theorem isCancelled_iff {r : Result α} :
    IsCancelled r ↔ ∃ f, r = some (.error f) ∧ f.isCancelled = true := by
  rcases r with _ | (f | a) <;> simp [Stops]

/-- What holds of the endings without a value holds of a run that stops. -/
@[elab_as_elim]
theorem Stops.ending {motive : Result α → Prop} {r : Result α} (h : Stops cause r)
    (hCut : cause none → motive none)
    (hFailure : ∀ f, cause (some f) → motive (some (.error f))) : motive r := by
  rcases r with _ | (f | a)
  · exact hCut h
  · exact hFailure f h
  · exact h.elim

theorem haltsWith_resume_of_stops {next : α → Program I β} {r : Result α} (h : Stops cause r) :
    HaltsWith (Stops cause) (resume next r) :=
  h.ending id fun _ => id

/-- A sequence that is stopped in its first part. -/
theorem HaltsWith.sequence (h : HaltsWith (Stops cause) x) (next : α → Program I β) :
    HaltsWith (Stops cause) (Program.andThen next x) :=
  haltsWith_andThen.2 (h.mono fun _ => haltsWith_resume_of_stops)

theorem Heeds.sequence (h : Heeds (Stops cause) x) {next : α → Program I β}
    (hNext : ∀ a, Heeds (Stops cause) (next a)) : Heeds (Stops cause) (Program.andThen next x) :=
  h.andThen (fun _ => haltsWith_resume_of_stops) hNext

theorem haltsWith_attempt {y : Except Failure α → Program I β} (h : HaltsWith (Stops cause) x)
    (hCut : cause none → T none) (hFailure : ∀ f, cause (some f) → HaltsWith T (y (.error f))) :
    HaltsWith T (andThen y (attempt x)) := by
  rw [haltsWith_andThen, attempt_eq_onEnding, haltsWith_onEnding]
  exact h.mono fun _ hStops => hStops.ending hCut hFailure

/-- What looks at the failure of a first part sees that it is stopped. -/
theorem heeds_attempt {y : Except Failure α → Program I β} (h : Heeds (Stops cause) x)
    (hCut : cause none → T none) (hFailure : ∀ f, cause (some f) → HaltsWith T (y (.error f)))
    (hNext : ∀ r, Heeds T (y r)) : Heeds T (andThen y (attempt x)) := by
  have hAttempt : Heeds (fun r => HaltsWith T (resume y r)) (attempt x) := by
    rw [attempt_eq_onEnding]
    refine h.onEnding (fun _ hStops => hStops.ending hCut hFailure) fun r => ?_
    rcases r with _ | (f | a) <;> trivial
  exact hAttempt.andThen (fun _ hHalts => hHalts) hNext

theorem haltsWith_cancellable (operation : String) (h : HaltsWith IsCutOff x) :
    HaltsWith IsCancelled (cancellable operation x) := by
  rw [cancellable_eq_onEnding, haltsWith_onEnding]
  exact h.mono fun _ hCut => hCut.ending (fun _ => rfl) nofun

/-- An operation that may be cut off anywhere is cancelled there. -/
theorem heeds_cancellable (operation : String) (h : Heeds IsCutOff x) :
    Heeds IsCancelled (cancellable operation x) := by
  rw [cancellable_eq_onEnding]
  exact h.onEnding (fun _ hCut => hCut.ending (fun _ => rfl) nofun) fun _ => heeds_ofExcept _

theorem haltsWith_ask (request : I.Request) : HaltsWith IsCutOff (ask request) := rfl

theorem heeds_ask (request : I.Request) : Heeds IsCutOff (ask request) := by
  refine ⟨rfl, rfl, fun a => ?_⟩
  cases a <;> trivial

theorem heeds_sleepUntil (till : Duration) :
    Heeds IsCutOff (sleepUntil till : Program I Unit) :=
  ⟨rfl, rfl, trivial⟩

end Stopping

end PodWorkspace.Program
