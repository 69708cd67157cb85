import PodWorkspace.Proofs.Program.Timing
import PodWorkspace.Server.Client

/-! The runs of what is put to the API server: a message that has an address is sent once, and what
comes of it is read off the reply. -/

namespace PodWorkspace.Server

open Program

section Exchange

variable {α β : Type} {steps : List (Step interface)} {m : Message}
  {read : Reply → Except ServerFault α}

/-- The note on a fault says nothing about how a question goes on. -/
theorem runs_noteUnreachable_andThen {answer : Except ServerFault α}
    {next : Unit → Talk β} {ending : Result β} :
    Runs (andThen next (noteUnreachable answer)) steps ending ↔ Runs (next ()) steps ending := by
  unfold noteUnreachable
  split
  · exact runs_log
  · exact Iff.rfl

theorem exchange_of_not_isWritable (h : m.address.isWritable = false) :
    exchange m read = .done (.error .unwritable) := by
  simp [exchange, h]

/-- A message that has an address is sent once. -/
theorem runs_exchange {ending : Result (Except ServerFault α)} (h : m.address.isWritable = true) :
    Runs (exchange m read) steps ending ↔ ∃ answer : Result (Except ServerFault Reply),
      steps = [.call (.exchange m) answer] ∧ ending = answer.map (·.map (· >>= read)) := by
  rw [exchange, if_pos h]
  refine runs_andThen.trans ?_
  constructor
  · rintro ⟨_, answer, after, rfl, hAsk, hRest⟩
    obtain rfl := runs_ask.1 hAsk
    refine ⟨answer, ?_⟩
    rcases answer with _ | (f | reply)
    · obtain ⟨rfl, rfl⟩ := runs_cutOff.1 hRest
      exact ⟨rfl, rfl⟩
    · obtain ⟨rfl, rfl⟩ := runs_fail.1 hRest
      exact ⟨rfl, rfl⟩
    · have hDone : Runs (andThen (fun _ => .done (reply >>= read)) (noteUnreachable reply)) after
          ending := hRest
      rw [runs_noteUnreachable_andThen] at hDone
      obtain ⟨rfl, rfl⟩ := runs_done.1 hDone
      exact ⟨rfl, rfl⟩
  · rintro ⟨answer, rfl, rfl⟩
    refine ⟨[_], answer, [], rfl, runs_ask.2 rfl, ?_⟩
    rcases answer with _ | (f | reply)
    · exact .cutOff
    · exact .fail f
    · exact runs_noteUnreachable_andThen.2 (.done _)

section Judged

variable {next : Except ServerFault α → Talk β} {judge : Except ServerFault α → Except Failure β}
  {ending : Result β}

/-- A message whose reply is judged without another step. -/
theorem runs_exchange_andThen (h : m.address.isWritable = true)
    (hNext : ∀ x steps ending, Runs (next x) steps ending ↔ steps = [] ∧ ending = some (judge x)) :
    Runs (andThen next (exchange m read)) steps ending ↔ ∃ answer : Result (Except ServerFault Reply),
      steps = [.call (.exchange m) answer] ∧
        ending = answer.map (· >>= fun reply => judge (reply >>= read)) := by
  rw [runs_andThen]
  constructor
  · rintro ⟨before, r, after, rfl, hExchange, hRest⟩
    obtain ⟨answer, rfl, rfl⟩ := (runs_exchange h).1 hExchange
    refine ⟨answer, ?_⟩
    rcases answer with _ | (f | reply)
    · obtain ⟨rfl, rfl⟩ := runs_cutOff.1 hRest
      exact ⟨rfl, rfl⟩
    · obtain ⟨rfl, rfl⟩ := runs_fail.1 hRest
      exact ⟨rfl, rfl⟩
    · obtain ⟨rfl, rfl⟩ := (hNext _ _ _).1 hRest
      exact ⟨rfl, rfl⟩
  · rintro ⟨answer, rfl, rfl⟩
    refine ⟨[_], _, [], rfl, (runs_exchange h).2 ⟨answer, rfl, rfl⟩, ?_⟩
    rcases answer with _ | (f | reply)
    · exact .cutOff
    · exact .fail f
    · exact (hNext _ _ _).2 ⟨rfl, rfl⟩

theorem runs_exchange_andThen_of_not_isWritable (h : m.address.isWritable = false)
    (hNext : ∀ x steps ending, Runs (next x) steps ending ↔ steps = [] ∧ ending = some (judge x)) :
    Runs (andThen next (exchange m read)) steps ending ↔
      steps = [] ∧ ending = some (judge (.error .unwritable)) := by
  rw [exchange_of_not_isWritable h]
  exact hNext _ _ _

end Judged

theorem alwaysEnds_noteUnreachable (answer : Except ServerFault α) :
    AlwaysEnds (noteUnreachable answer) := by
  unfold noteUnreachable
  split
  · exact alwaysEnds_log (alwaysEnds_done ()) _
  · exact alwaysEnds_done ()

theorem alwaysEnds_exchange : AlwaysEnds (exchange m read) := by
  unfold exchange
  split
  · refine (alwaysEnds_ask _).andThen fun reply => ?_
    exact (alwaysEnds_noteUnreachable reply).andThen fun _ => alwaysEnds_done _
  · exact alwaysEnds_done _

end Exchange

end PodWorkspace.Server
