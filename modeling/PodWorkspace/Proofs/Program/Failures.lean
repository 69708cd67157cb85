import PodWorkspace.Proofs.Program.Runs

/-! How a program can fail while its steps go in a way that is admitted. Each way to combine programs
fails as its parts do. Some programs fail whenever a question of theirs does. -/

namespace PodWorkspace.Program

variable {I : Interface} {α β : Type} {admits : Step I → Prop} {P : Failure → Prop}

/-- As long as all of its steps are admitted, the program is not cut off, and all its failures
satisfy `P`. -/
def FailsOnly (admits : Step I → Prop) (P : Failure → Prop) (x : Program I α) : Prop :=
  ∀ ⦃steps ending⦄, Runs x steps ending → (∀ step ∈ steps, admits step) →
    ∃ r : Except Failure α, ending = some r ∧ ∀ f, r = .error f → P f

/-- A program that cannot fail while its steps are admitted. -/
abbrev Succeeds (admits : Step I → Prop) (x : Program I α) : Prop :=
  FailsOnly admits (fun _ => False) x

theorem FailsOnly.mono {Q : Failure → Prop} {x : Program I α} (h : FailsOnly admits P x)
    (hPQ : ∀ f, P f → Q f) : FailsOnly admits Q x := by
  intro steps ending hRun hAdmits
  obtain ⟨r, rfl, hFailure⟩ := h hRun hAdmits
  exact ⟨r, rfl, fun f hError => hPQ f (hFailure f hError)⟩

theorem FailsOnly.of_error {x : Program I α} {steps : List (Step I)} {f : Failure}
    (h : FailsOnly admits P x) (hRun : Runs x steps (some (.error f)))
    (hAdmits : ∀ step ∈ steps, admits step) : P f := by
  obtain ⟨r, hEnding, hFailure⟩ := h hRun hAdmits
  cases hEnding
  exact hFailure f rfl

/-- A program that cannot fail has a value. -/
theorem Succeeds.ending {x : Program I α} {steps : List (Step I)} {ending : Result α}
    (h : Succeeds admits x) (hRun : Runs x steps ending) (hAdmits : ∀ step ∈ steps, admits step) :
    ∃ a, ending = some (.ok a) := by
  obtain ⟨_ | a, rfl, hFailure⟩ := h hRun hAdmits
  · exact (hFailure _ rfl).elim
  · exact ⟨a, rfl⟩

theorem failsOnly_done (a : α) : FailsOnly admits P (.done a : Program I α) := by
  rintro steps ending ⟨⟩ -
  exact ⟨.ok a, rfl, nofun⟩

theorem failsOnly_fail {f : Failure} (hP : P f) : FailsOnly admits P (.fail f : Program I α) := by
  rintro steps ending ⟨⟩ -
  exact ⟨.error f, rfl, by rintro _ ⟨⟩; exact hP⟩

theorem failsOnly_note (e : Event) : FailsOnly admits P (note e : Program I Unit) := by
  intro steps ending hRun _
  exact ⟨_, (runs_note.1 hRun).2, nofun⟩

theorem failsOnly_ofExcept {x : Except Failure α} (hP : ∀ f, x = .error f → P f) :
    FailsOnly admits P (ofExcept x : Program I α) := by
  intro steps ending hRun _
  exact ⟨x, (runs_ofExcept.1 hRun).2, hP⟩

theorem failsOnly_ask {request : I.Request}
    (hAnswer : ∀ answer, admits (.call request answer) →
      ∃ r : Except Failure (I.Answer request), answer = some r ∧ ∀ f, r = .error f → P f) :
    FailsOnly admits P (ask request : Program I (I.Answer request)) := by
  intro steps ending hRun hAdmits
  obtain rfl := runs_ask.1 hRun
  exact hAnswer ending (hAdmits _ (List.mem_singleton_self _))

theorem FailsOnly.andThen {x : Program I α} {next : α → Program I β} (h : FailsOnly admits P x)
    (hNext : ∀ a, FailsOnly admits P (next a)) : FailsOnly admits P (andThen next x) := by
  intro steps ending hRun hAdmits
  obtain ⟨before, e, after, rfl, hx, hn⟩ := runs_andThen.1 hRun
  obtain ⟨_ | a, rfl, hFailure⟩ := h hx fun step hMem => hAdmits step (List.mem_append_left _ hMem)
  · obtain ⟨-, rfl⟩ := runs_fail.1 hn
    exact ⟨_, rfl, fun f hError => hFailure f (by simpa using hError)⟩
  · exact hNext a hn fun step hMem => hAdmits step (List.mem_append_right _ hMem)

theorem FailsOnly.attempt {x : Program I α} (h : FailsOnly admits P x) :
    Succeeds admits (attempt x) := by
  intro steps ending hRun hAdmits
  obtain ⟨e, rfl, hx⟩ := runs_attempt.1 hRun
  obtain ⟨r, rfl, -⟩ := h hx hAdmits
  exact ⟨_, rfl, nofun⟩

theorem FailsOnly.cancellable {x : Program I α} (h : FailsOnly admits P x) (operation : String) :
    FailsOnly admits P (cancellable operation x) := by
  intro steps ending hRun hAdmits
  obtain ⟨e, rfl, hx⟩ := runs_cancellable.1 hRun
  obtain ⟨r, rfl, hFailure⟩ := h hx hAdmits
  exact ⟨r, rfl, hFailure⟩

/-! ### Programs that give up at the first failure -/

/-- Whether a program has a value only where each of its questions is answered with one. -/
def Insists (x : Program I α) : Prop :=
  ∀ ⦃steps a⦄, Runs x steps (some (.ok a)) → ∀ r answer, .call r answer ∈ steps →
    ∃ v, answer = some (.ok v)

theorem insists_done (a : α) : Insists (.done a : Program I α) := by
  rintro steps _ ⟨⟩ r answer hMem
  cases hMem

theorem insists_note (e : Event) : Insists (note e : Program I Unit) := by
  intro steps a hRun r answer hMem
  rw [(runs_note.1 hRun).1] at hMem
  cases hMem

theorem insists_ask (r : I.Request) : Insists (ask r : Program I (I.Answer r)) := by
  intro steps a hRun other answer hMem
  rw [runs_ask.1 hRun, List.mem_singleton] at hMem
  cases hMem
  exact ⟨a, rfl⟩

theorem Insists.andThen {x : Program I α} {next : α → Program I β} (h : Insists x)
    (hNext : ∀ a, Insists (next a)) : Insists (andThen next x) := by
  intro steps b hRun r answer hMem
  obtain ⟨before, a, after, rfl, hx, hRest⟩ := runs_andThen_ok.1 hRun
  obtain hMem | hMem := List.mem_append.1 hMem
  · exact h hx r answer hMem
  · exact hNext a hRest r answer hMem

theorem Insists.cancellable {x : Program I α} (h : Insists x) (operation : String) :
    Insists (cancellable operation x) := by
  intro steps a hRun
  obtain ⟨ending, hEnding, hx⟩ := runs_cancellable.1 hRun
  cases ending with
  | none => cases hEnding
  | some outcome =>
    cases hEnding
    exact h hx

end PodWorkspace.Program
