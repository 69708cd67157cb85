import PodWorkspace.Proofs.Program.Runs

/-! Programs that do nothing but ask. It does not matter when such a program runs, and it is cut off
only where one of its questions is. Each way to combine programs keeps them so. -/

namespace PodWorkspace.Program

variable {I : Interface} {α β : Type} {P : I.Request → Prop}

/-- Whether each run of a program consists of questions that satisfy `P`, and has an ending when all of
them have an answer. -/
structure Inquires (P : I.Request → Prop) (x : Program I α) : Prop where
  asks : ∀ ⦃steps ending⦄, Runs x steps ending → ∀ step ∈ steps, ∃ r a, step = .call r a ∧ P r
  ends : ∀ ⦃steps⦄, Runs x steps none → ∃ r, .call r none ∈ steps

theorem Inquires.asksOnly {x : Program I α} (h : Inquires P x) : AsksOnly P x := by
  intro steps ending hRun r a hMem
  obtain ⟨_, _, hCall, hP⟩ := h.asks hRun _ hMem
  cases hCall
  exact hP

theorem Inquires.mono {Q : I.Request → Prop} {x : Program I α} (h : Inquires P x)
    (hPQ : ∀ r, P r → Q r) : Inquires Q x where
  asks steps ending hRun step hMem := by
    obtain ⟨r, a, hCall, hP⟩ := h.asks hRun step hMem
    exact ⟨r, a, hCall, hPQ r hP⟩
  ends := h.ends

/-- A program without steps that is not cut off. -/
theorem inquires_of_silent {x : Program I α} {r : Except Failure α}
    (hx : ∀ steps ending, Runs x steps ending → steps = [] ∧ ending = some r) : Inquires P x where
  asks steps ending hRun step hMem := by
    rw [(hx _ _ hRun).1] at hMem
    cases hMem
  ends steps hRun := by
    cases (hx _ _ hRun).2

theorem inquires_done (a : α) : Inquires P (.done a : Program I α) :=
  inquires_of_silent fun _ _ => runs_done.1

theorem inquires_fail (f : Failure) : Inquires P (.fail f : Program I α) :=
  inquires_of_silent fun _ _ => runs_fail.1

theorem inquires_note (e : Event) : Inquires P (note e : Program I Unit) :=
  inquires_of_silent fun _ _ => runs_note.1

theorem inquires_ofExcept (x : Except Failure α) : Inquires P (ofExcept x : Program I α) :=
  inquires_of_silent fun _ _ => runs_ofExcept.1

theorem inquires_ofLogged (x : Logged α) : Inquires P (ofLogged x : Program I α) :=
  inquires_of_silent fun _ _ => runs_ofLogged.1

theorem inquires_ask {r : I.Request} (hP : P r) : Inquires P (ask r : Program I (I.Answer r)) where
  asks steps ending hRun step hMem := by
    rw [runs_ask.1 hRun, List.mem_singleton] at hMem
    exact ⟨r, ending, hMem, hP⟩
  ends steps hRun := ⟨r, by rw [runs_ask.1 hRun]; exact List.mem_singleton_self _⟩

theorem Inquires.andThen {x : Program I α} {next : α → Program I β} (h : Inquires P x)
    (hNext : ∀ a, Inquires P (next a)) : Inquires P (andThen next x) where
  asks steps ending hRun step hMem := by
    obtain ⟨before, r, after, rfl, hx, hRest⟩ := runs_andThen.1 hRun
    rcases List.mem_append.1 hMem with hMem | hMem
    · exact h.asks hx step hMem
    · rcases r with _ | (f | a)
      · simp [(runs_cutOff.1 hRest).1] at hMem
      · simp [(runs_fail.1 hRest).1] at hMem
      · exact (hNext a).asks hRest step hMem
  ends steps hRun := by
    obtain ⟨before, r, after, rfl, hx, hRest⟩ := runs_andThen.1 hRun
    rcases r with _ | (f | a)
    · obtain ⟨r, hMem⟩ := h.ends hx
      exact ⟨r, List.mem_append_left _ hMem⟩
    · cases (runs_fail.1 hRest).2
    · obtain ⟨r, hMem⟩ := (hNext a).ends hRest
      exact ⟨r, List.mem_append_right _ hMem⟩

theorem Inquires.attempt {x : Program I α} (h : Inquires P x) : Inquires P (attempt x) where
  asks steps ending hRun := by
    obtain ⟨r, -, hx⟩ := runs_attempt.1 hRun
    exact h.asks hx
  ends steps hRun := by
    obtain ⟨r, hEnding, hx⟩ := runs_attempt.1 hRun
    cases r with
    | none => exact h.ends hx
    | some r => cases hEnding

theorem Inquires.cancellable {x : Program I α} (h : Inquires P x) (operation : String) :
    Inquires P (cancellable operation x) where
  asks steps ending hRun := by
    obtain ⟨r, -, hx⟩ := runs_cancellable.1 hRun
    exact h.asks hx
  ends steps hRun := by
    obtain ⟨r, hEnding, -⟩ := runs_cancellable.1 hRun
    cases hEnding

end PodWorkspace.Program
