import PodWorkspace.Proofs.Program.Timing
import PodWorkspace.Proofs.Readiness.Wait

/-! How many looks a wait for a pod needs. Each is due a second after the one before, and after each the
deadline is looked at; so a wait that has one look for each second never uses them up, and it has the
same runs with any larger number of them. -/

namespace PodWorkspace.Readiness

open Cluster Program

variable {name : String} {timeout started due now ended : Duration} {policy : CompletedPodPolicy}
  {throttle : Throttle} {steps : List (Step interface)} {ending : Result WaitEnd} {polls others : Nat}

theorem due_le_of_observe {found : Duration × Option Pod}
    (h : Passes now (observe name due) steps (some (.ok found)) ended) : due ≤ ended := by
  obtain ⟨before, r, between, after, rfl, hSleep, hLook⟩ := h.of_andThen
  have hBetween : due ≤ between := by
    cases hSleep with
    | sleep slept hNow hSlept hCut hRest =>
      cases slept with
      | true => exact Duration.le_trans (hSlept rfl).1 hRest.le
      | false =>
        obtain ⟨limit, hNone, -⟩ := hCut rfl
        cases hNone
  exact Duration.le_trans hBetween hLook.le

theorem due_add_le_nextPoll (due observed : Duration) : due + .ofSeconds 1 ≤ nextPoll due observed := by
  unfold nextPoll
  split
  · rename_i hLate
    have hMoved : due.nanos + 5 * 1000000 < observed.nanos := hLate
    show due.nanos + 1 * 1000000000 ≤ observed.nanos + 1 * 1000000000
    omega
  · exact Duration.le_refl _

/-- What follows on a look at the deadline may be replaced by what has the same runs before that. -/
theorem passes_unlessLate_of_imp {next next' : Action WaitEnd}
    (h : Passes now (unlessLate name timeout started next) steps ending ended)
    (hNext : ∀ ⦃after⦄, ¬started + timeout ≤ now → Passes now next after ending ended →
      Passes now next' after ending ended) :
    Passes now (unlessLate name timeout started next') steps ending ended := by
  cases h with
  | clock h =>
    have hRest : Passes now
        (if started + timeout ≤ now then .fail (timedOut name timeout) else next) _ ending ended := h
    refine .clock ?_
    show Passes now
      (if started + timeout ≤ now then .fail (timedOut name timeout) else next') _ ending ended
    by_cases hLate : started + timeout ≤ now
    · rwa [if_pos hLate] at hRest ⊢
    · rw [if_neg hLate] at hRest ⊢
      exact hNext hLate hRest

/-- In the same way what follows on the first look of a wait may be replaced, when that look comes before
the deadline. -/
theorem passes_poll_of_imp
    (h : Passes now (poll name timeout policy started (polls + 1) due throttle) steps ending ended)
    (hNext : ∀ ⦃observed later throttle' after⦄, due ≤ later → ¬started + timeout ≤ later →
      Passes later (poll name timeout policy started polls (nextPoll due observed) throttle') after
        ending ended →
      Passes later (poll name timeout policy started others (nextPoll due observed) throttle') after
        ending ended) :
    Passes now (poll name timeout policy started (others + 1) due throttle) steps ending ended := by
  refine h.andThen_of_imp fun before found between hLook after hRest => ?_
  obtain ⟨observed, pod⟩ := found
  have hDue := due_le_of_observe hLook
  -- Two of the decisions go on: a pod that has finished is deleted, or it is told why it is not up.
  revert hRest
  dsimp only
  split
  case h_7 =>
    intro hRest
    cases hRest with
    | log hRest =>
      have hRest : Passes between (andThen
        (fun _ => unlessLate name timeout started
          (poll name timeout policy started polls (nextPoll due observed) throttle))
        (cancellable "delete pod" (ask (I := interface) (.deletePod name)))) _ ending ended := hRest
      refine .log (hRest.andThen_of_imp fun _ _ _ hDelete _ hLater => ?_)
      refine passes_unlessLate_of_imp hLater fun _ hInTime => ?_
      exact hNext (Duration.le_trans hDue hDelete.le) hInTime
  case h_8 =>
    intro hRest
    refine hRest.andThen_of_imp fun _ _ _ hTold _ hLater => ?_
    refine passes_unlessLate_of_imp hLater fun _ hInTime => ?_
    exact hNext (Duration.le_trans hDue hTold.le) hInTime
  all_goals exact id

/-- Any two numbers of looks that reach to the deadline have the same runs. -/
theorem passes_poll_of_le
    (h : Passes now (poll name timeout policy started (polls + 1) due throttle) steps ending ended)
    (hEnough : started + timeout ≤ due + .ofSeconds polls)
    (hOthers : started + timeout ≤ due + .ofSeconds others) :
    Passes now (poll name timeout policy started (others + 1) due throttle) steps ending ended := by
  -- On the looks that are left after this one: a turn that comes in time has another one after it.
  induction polls generalizing others due throttle now steps with
  | zero =>
    refine passes_poll_of_imp h fun observed later throttle' after hDue hInTime => ?_
    have hLast : started + timeout ≤ due := by
      have hLimit : started.nanos + timeout.nanos ≤ due.nanos + 0 * 1000000000 := hEnough
      show started.nanos + timeout.nanos ≤ due.nanos
      omega
    exact absurd (Duration.le_trans hLast hDue) hInTime
  | succ polls ih =>
    refine passes_poll_of_imp h fun observed later throttle' after hDue hInTime hRest => ?_
    have hLook : due.nanos ≤ later.nanos := hDue
    have hEarly : ¬started.nanos + timeout.nanos ≤ later.nanos := hInTime
    have hNext : due.nanos + 1 * 1000000000 ≤ (nextPoll due observed).nanos :=
      due_add_le_nextPoll due observed
    have hLeft : started.nanos + timeout.nanos ≤ due.nanos + (polls + 1) * 1000000000 := hEnough
    have hOthersLeft : started.nanos + timeout.nanos ≤ due.nanos + others * 1000000000 := hOthers
    obtain ⟨others, rfl⟩ : ∃ n, others = n + 1 := ⟨others - 1, by omega⟩
    refine ih hRest ?_ ?_
    · show started.nanos + timeout.nanos ≤ (nextPoll due observed).nanos + polls * 1000000000
      omega
    · show started.nanos + timeout.nanos ≤ (nextPoll due observed).nanos + others * 1000000000
      omega

/-- A wait that makes at most some number of looks. -/
def waitAtMost (looks : Nat) (name : String) (timeout : Duration) (policy : CompletedPodPolicy) :
    Action WaitEnd := do
  let started ← .now
  poll name timeout policy started looks started (.startingAt started messageInterval)

theorem passes_waitAtMost_of_le (h : Passes now (waitAtMost (polls + 1) name timeout policy) steps ending ended)
    (hEnough : timeout.secondsUp ≤ polls) (hOthers : timeout.secondsUp ≤ others) :
    Passes now (waitAtMost (others + 1) name timeout policy) steps ending ended := by
  have hReach {n : Nat} (hMore : timeout.secondsUp ≤ n) : now + timeout ≤ now + .ofSeconds n := by
    have hSeconds : (timeout.nanos + 999999999) / 1000000000 ≤ n := hMore
    show now.nanos + timeout.nanos ≤ now.nanos + n * 1000000000
    omega
  cases h with
  | clock h => exact .clock (passes_poll_of_le h (hReach hEnough) (hReach hOthers))

/-- The looks of a wait are enough: it has the same runs with any larger number of them. -/
theorem passes_waitAtMost_iff {looks : Nat} (hEnough : timeout.secondsUp + 1 ≤ looks) :
    Passes now (waitAtMost looks name timeout policy) steps ending ended ↔
      Passes now (wait name timeout policy) steps ending ended := by
  have hWait : wait name timeout policy = waitAtMost (timeout.secondsUp + 1) name timeout policy := rfl
  obtain ⟨others, rfl⟩ : ∃ n, looks = n + 1 := ⟨looks - 1, by omega⟩
  have hOthers : timeout.secondsUp ≤ others := by omega
  rw [hWait]
  exact ⟨fun h => passes_waitAtMost_of_le h hOthers (Nat.le_refl _),
    fun h => passes_waitAtMost_of_le h (Nat.le_refl _) hOthers⟩

end PodWorkspace.Readiness
