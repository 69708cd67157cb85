import PodWorkspace.Proofs.Simulation.Follow

/-! Programs of which the store decides how they end. All runs of such a program that a simulated
cluster answers have the same value and leave the same objects, so the parts of a program settle the
whole: there is one rule for each way to combine programs. -/

namespace PodWorkspace.Simulation

open Cluster Program

/-- Whether all runs of a program that are answered from `s` have the value `a` and leave `s'`. -/
def Yields {α : Type} (around : Surroundings) (s : Store) (x : Action α) (a : α) (s' : Store) : Prop :=
  ∀ ⦃steps ending after⦄, Runs x steps ending → Serves around s steps after →
    ending = some (.ok a) ∧ after = s'

variable {α β : Type} {around : Surroundings} {s s' s'' : Store}

/-- A program without steps yields its value and leaves all as it is. -/
theorem yields_of_silent {x : Action α} {a : α}
    (hx : ∀ steps ending, Runs x steps ending → steps = [] ∧ ending = some (.ok a)) :
    Yields around s x a s := by
  intro steps ending after hRun hServes
  obtain ⟨rfl, rfl⟩ := hx _ _ hRun
  exact ⟨rfl, hServes.eq_of_nil⟩

theorem yields_done (a : α) : Yields around s (.done a) a s :=
  yields_of_silent fun _ _ => runs_done.1

theorem yields_note (e : Event) : Yields around s (note e) () s :=
  yields_of_silent fun _ _ => runs_note.1

theorem yields_ofExcept {x : Except Failure α} {a : α} (h : x = .ok a) :
    Yields around s (ofExcept x) a s :=
  yields_of_silent fun _ _ hRun => h ▸ runs_ofExcept.1 hRun

theorem yields_ofLogged {x : Logged α} {a : α} (h : x.outcome = .ok a) :
    Yields around s (ofLogged x) a s :=
  yields_of_silent fun _ _ hRun => h ▸ runs_ofLogged.1 hRun

theorem yields_ask {r : Request} {a : r.Answer} (h : s.answer around r = (.ok a, s')) :
    Yields around s (ask (I := interface) r) a s' := by
  intro steps ending after hRun hServes
  obtain rfl := runs_ask.1 hRun
  have hAnswer : ending = some (.ok a) := by rw [hServes.answer_eq, h]
  exact ⟨hAnswer, by rw [hServes.rest.eq_of_nil, h]⟩

theorem Yields.andThen {x : Action α} {next : α → Action β} {a : α} {b : β}
    (h : Yields around s x a s') (hNext : Yields around s' (next a) b s'') :
    Yields around s (x >>= next) b s'' := by
  intro steps ending after hRun hServes
  obtain ⟨before, r, rest, rfl, hx, hRest⟩ := runs_andThen.1 hRun
  obtain ⟨between, hBefore, hAfter⟩ := hServes.split
  obtain ⟨rfl, rfl⟩ := h hx hBefore
  exact hNext hRest hAfter

/-- A question whose answer may be a failure yields that answer when failures are given back. -/
theorem yields_attempt_ask (r : Request) :
    Yields around s (.attempt (ask (I := interface) r)) (s.answer around r).1
      (s.answer around r).2 := by
  intro steps ending after hRun hServes
  obtain ⟨answer, rfl, hAsk⟩ := runs_attempt.1 hRun
  obtain rfl := runs_ask.1 hAsk
  exact ⟨by rw [hServes.answer_eq]; rfl, hServes.rest.eq_of_nil⟩

theorem Yields.attempt {x : Action α} {a : α} (h : Yields around s x a s') :
    Yields around s (.attempt x) (.ok a) s' := by
  intro steps ending after hRun hServes
  obtain ⟨r, rfl, hx⟩ := runs_attempt.1 hRun
  obtain ⟨rfl, hStore⟩ := h hx hServes
  exact ⟨rfl, hStore⟩

theorem Yields.cancellable {x : Action α} {a : α} (h : Yields around s x a s') (operation : String) :
    Yields around s (.cancellable operation x) a s' := by
  intro steps ending after hRun hServes
  obtain ⟨r, rfl, hx⟩ := runs_cancellable.1 hRun
  obtain ⟨rfl, hStore⟩ := h hx hServes
  exact ⟨rfl, hStore⟩

theorem yields_request {operation : String} {r : Request} {a : r.Answer}
    (h : s.answer around r = (.ok a, s')) :
    Yields around s (Workspace.request operation r) a s' :=
  (yields_ask h).cancellable operation

theorem yields_tell (w : Workspace) (level : Level) (message : String)
    (fields : List (String × String)) : Yields around s (w.tell level message fields) () s :=
  yields_note _

/-- A program that yields a value has a run to it. -/
theorem Yields.exists_run {x : Action α} {a : α} (h : Yields around s x a s') :
    ∃ steps, Runs x steps (some (.ok a)) ∧ Serves around s steps s' := by
  have hRun := s.runs_follow around x
  have hServes := s.serves_follow around x
  obtain ⟨hEnding, hStore⟩ := h hRun hServes
  exact ⟨_, hEnding ▸ hRun, hStore ▸ hServes⟩

end PodWorkspace.Simulation
