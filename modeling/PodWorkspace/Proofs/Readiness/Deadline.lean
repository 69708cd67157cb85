import PodWorkspace.Proofs.Cluster.Request
import PodWorkspace.Proofs.Readiness.Wait

/-! When a wait for a pod ends, and with what, in a cluster whose calls succeed and take no time. The
pod is looked at at once and then every second, and the first observation that can end the wait ends
it, up to the first one at which the deadline has passed. -/

namespace PodWorkspace.Readiness

open Cluster Program

/-! ### A cluster that shows a pod -/

/-- The time after a sleep. -/
def wakeTime (now till : Duration) : Duration :=
  if now ≤ till then till else now

/-- Steps from a point in time on during which every call succeeds at once. The looks at a pod show
it as `pods` says, and `looks` of them were made before. -/
inductive Shows (pods : Nat → Option Pod) : (now : Duration) → (looks : Nat) →
    List (Step interface) → Prop
  | nil {now : Duration} {looks : Nat} : Shows pods now looks []
  | look {now : Duration} {looks : Nat} {rest : List (Step interface)} (name : String)
      (hRest : Shows pods now (looks + 1) rest) :
      Shows pods now looks (.call (.getPod name) (some (.ok (pods looks))) :: rest)
  | answered {now : Duration} {looks : Nat} {rest : List (Step interface)} {r : Request}
      (a : r.Answer) (hOther : r.looksAtPod = false) (hRest : Shows pods now looks rest) :
      Shows pods now looks (.call r (some (.ok a)) :: rest)
  | clock {now : Duration} {looks : Nat} {rest : List (Step interface)}
      (hRest : Shows pods now looks rest) : Shows pods now looks (.clock now :: rest)
  /-- Time passes only in a sleep. -/
  | sleep {now till : Duration} {looks : Nat} {rest : List (Step interface)}
      (hRest : Shows pods (wakeTime now till) looks rest) :
      Shows pods now looks (.sleep till true :: rest)

/-- The requests of some steps that begin at a point in time, each with the time at which it comes. -/
def timeline : Duration → List (Step interface) → List (Duration × Request)
  | _, [] => []
  | now, .call r _ :: rest => (now, r) :: timeline now rest
  | now, .clock _ :: rest => timeline now rest
  | now, .sleep till _ :: rest => timeline (wakeTime now till) rest

section Shows

variable {α : Type} {pods : Nat → Option Pod} {now due : Duration} {looks : Nat}
  {rest : List (Step interface)} {name : String}

theorem nonempty_answer (r : Request) : Nonempty r.Answer := by
  cases r with
  | getClaim | getPod | getSecret | getServiceAccount | getRoleBinding | lookUp => exact ⟨none⟩
  | listPods => exact ⟨([] : List String)⟩
  | podLogs => exact ⟨""⟩
  | exec => exact ⟨(⟨"", "", .ok ()⟩ : ExecSession)⟩
  | _ => exact ⟨()⟩

/-- Every program comes to an end in a cluster whose calls succeed at once, whatever that shows. -/
theorem exists_run_of_shows (pods : Nat → Option Pod) (x : Action α) (now : Duration) (looks : Nat) :
    ∃ steps ending, Runs x steps ending ∧ Shows pods now looks steps := by
  induction x generalizing now looks with
  | done a => exact ⟨[], _, .done a, .nil⟩
  | fail f => exact ⟨[], _, .fail f, .nil⟩
  | cutOff => exact ⟨[], _, .cutOff, .nil⟩
  | log e rest ih =>
    obtain ⟨steps, ending, hRun, hShows⟩ := ih now looks
    exact ⟨steps, ending, .log hRun, hShows⟩
  | call deadline r next ih =>
    obtain ⟨a⟩ := nonempty_answer r
    cases r with
    | getPod name =>
      obtain ⟨steps, ending, hRun, hShows⟩ := ih (some (.ok (pods looks))) now (looks + 1)
      exact ⟨_, ending, .call _ hRun, .look name hShows⟩
    | _ =>
      obtain ⟨steps, ending, hRun, hShows⟩ := ih (some (.ok a)) now looks
      exact ⟨_, ending, .call _ hRun, .answered a rfl hShows⟩
  | clock next ih =>
    obtain ⟨steps, ending, hRun, hShows⟩ := ih now now looks
    exact ⟨_, ending, .clock now hRun, .clock hShows⟩
  | sleep deadline till next ih =>
    obtain ⟨steps, ending, hRun, hShows⟩ := ih true (wakeTime now till) looks
    exact ⟨_, ending, .sleep true hRun, .sleep hShows⟩

/-- A look that is due later than now comes when it is due, and it is answered. -/
theorem shows_look {observed : Duration} {answer : Result (Option Pod)}
    (h : Shows pods now looks
      (.sleep due true :: .clock observed :: .call (.getPod name) answer :: rest))
    (hDue : now ≤ due) :
    observed = due ∧ answer = some (.ok (pods looks)) ∧ Shows pods due (looks + 1) rest := by
  have hWake : wakeTime now due = due := if_pos hDue
  cases h with
  | sleep hClock =>
    rw [hWake] at hClock
    cases hClock with
    | clock hCall =>
      cases hCall with
      | look _ hRest => exact ⟨rfl, rfl, hRest⟩
      | answered _ hOther _ => cases hOther

theorem shows_lookSteps {observed : Duration} {pod : Option Pod}
    (h : Shows pods now looks (lookSteps name due observed pod ++ rest)) (hDue : now ≤ due) :
    observed = due ∧ pod = pods looks ∧ Shows pods due (looks + 1) rest := by
  obtain ⟨hTime, hAnswer, hRest⟩ := shows_look h hDue
  cases hAnswer
  exact ⟨hTime, rfl, hRest⟩

theorem timeline_lookSteps {observed : Duration} {pod : Option Pod} (hDue : now ≤ due) :
    timeline now (lookSteps name due observed pod ++ rest) =
      (due, .getPod name) :: timeline due rest := by
  have hWake : wakeTime now due = due := if_pos hDue
  simp only [lookSteps, List.cons_append, List.nil_append, timeline, hWake]

end Shows

/-! ### The turns of a wait -/

section Turns

variable {pods : Nat → Option Pod} {name : String} {timeout started now : Duration}
  {policy : CompletedPodPolicy} {looks : Nat}

/-- What a wait asks in the turn that begins at a time: for the pod, and when it finds that finished,
to delete it. -/
def turnRequests (name : String) (policy : CompletedPodPolicy) (time : Duration) (pod : Option Pod) :
    List (Duration × Request) :=
  (time, .getPod name) ::
    match tick pod policy with
    | .recycle _ => [(time, .deletePod name)]
    | _ => []

/-- What a wait asks in some of its turns, which are a second apart. -/
def turnsRequests (name : String) (policy : CompletedPodPolicy) (started : Duration)
    (pods : Nat → Option Pod) (first count : Nat) : List (Duration × Request) :=
  (List.range' first count).flatMap fun i =>
    turnRequests name policy (started + .ofSeconds i) (pods i)

theorem turnsRequests_succ {first count : Nat} :
    turnsRequests name policy started pods first (count + 1) =
      turnRequests name policy (started + .ofSeconds first) (pods first) ++
        turnsRequests name policy started pods (first + 1) count := by
  rw [turnsRequests, List.range'_succ, List.flatMap_cons]
  rfl

/-- How a wait has to end for a pod that is seen as `pods` says, and at which look: with the first
observation that decides and is in time, and else with the deadline. -/
inductive Concludes (name : String) (timeout : Duration) (policy : CompletedPodPolicy)
    (pods : Nat → Option Pod) : (last : Nat) → Except Failure WaitEnd → Prop
  | decided {last : Nat} {outcome : Except Failure WaitEnd} (hTime : last ≤ timeout.secondsUp)
      (hVerdict : verdict name (pods last) (tick (pods last) policy) = some outcome)
      (hEarlier : ∀ i < last, verdict name (pods i) (tick (pods i) policy) = none) :
      Concludes name timeout policy pods last outcome
  | late (hNone : ∀ i ≤ timeout.secondsUp, verdict name (pods i) (tick (pods i) policy) = none) :
      Concludes name timeout policy pods timeout.secondsUp (.error (timedOut name timeout))

theorem Concludes.unique {last last' : Nat} {outcome outcome' : Except Failure WaitEnd}
    (h : Concludes name timeout policy pods last outcome)
    (h' : Concludes name timeout policy pods last' outcome') : last = last' ∧ outcome = outcome' := by
  cases h with
  | decided hTime hVerdict hEarlier =>
    cases h' with
    | decided hTime' hVerdict' hEarlier' =>
      -- Neither decides before the other.
      have hLe : last ≤ last' := by
        by_contra hLt
        simp [hEarlier last' (by omega)] at hVerdict'
      have hGe : last' ≤ last := by
        by_contra hLt
        simp [hEarlier' last (by omega)] at hVerdict
      obtain rfl : last = last' := by omega
      rw [hVerdict] at hVerdict'
      exact ⟨rfl, Option.some.inj hVerdict'⟩
    | late hNone => simp [hNone last hTime] at hVerdict
  | late hNone =>
    cases h' with
    | decided hTime hVerdict _ => simp [hNone last' hTime] at hVerdict
    | late _ => exact ⟨rfl, rfl⟩

/-- The look that comes some seconds after the start is the first at or after the deadline, or a later
one, exactly from the number of seconds of the deadline on. -/
theorem deadline_le_iff {i : Nat} :
    started + timeout ≤ started + .ofSeconds i ↔ timeout.secondsUp ≤ i := by
  change started.nanos + timeout.nanos ≤ started.nanos + i * 1000000000 ↔
    (timeout.nanos + 999999999) / 1000000000 ≤ i
  omega

theorem due_le_next {i : Nat} : started + .ofSeconds i ≤ started + .ofSeconds (i + 1) := by
  change started.nanos + i * 1000000000 ≤ started.nanos + (i + 1) * 1000000000
  omega

/-- A look that is made when it is due is followed by one a second later. -/
theorem nextPoll_self {i : Nat} :
    nextPoll (started + .ofSeconds i) (started + .ofSeconds i) = started + .ofSeconds (i + 1) := by
  have hInTime : ¬started + .ofSeconds i + pollTolerance < started + .ofSeconds i := by
    change ¬started.nanos + i * 1000000000 + 5 * 1000000 < started.nanos + i * 1000000000
    omega
  rw [nextPoll, if_neg hInTime]
  change Duration.mk (started.nanos + i * 1000000000 + 1 * 1000000000) =
    Duration.mk (started.nanos + (i + 1) * 1000000000)
  congr 1
  omega

/-- A pause takes no time, and deletes the pod where it has finished. -/
theorem shows_pause {t : Duration} {pod : Option Pod} {throttle throttle' : Throttle}
    {between rest : List (Step interface)} (hPause : Pause name policy pod throttle between throttle')
    (h : Shows pods now looks (between ++ .clock t :: rest)) :
    t = now ∧ Shows pods now looks rest ∧
      (now, .getPod name) :: timeline now (between ++ .clock t :: rest) =
        turnRequests name policy now pod ++ timeline now rest := by
  cases hPause with
  | told hTick =>
    cases h with
    | clock hRest =>
      cases hRest with
      | clock hRest => exact ⟨rfl, hRest, by simp [turnRequests, timeline, hTick]⟩
  | recycled hTick =>
    cases h with
    | answered _ _ hRest =>
      cases hRest with
      | clock hRest => exact ⟨rfl, hRest, by simp [turnRequests, timeline, hTick]⟩

theorem turnRequests_of_verdict {time : Duration} {pod : Option Pod}
    {outcome : Except Failure WaitEnd} (h : verdict name pod (tick pod policy) = some outcome) :
    turnRequests name policy time pod = [(time, .getPod name)] := by
  unfold turnRequests
  split
  · rename_i hTick
    rw [hTick] at h
    cases h
  · rfl

theorem undecided_upTo {i : Nat}
    (hEarlier : ∀ j < i, verdict name (pods j) (tick (pods j) policy) = none)
    (hNone : verdict name (pods i) (tick (pods i) policy) = none) :
    ∀ j ≤ i, verdict name (pods j) (tick (pods j) policy) = none := by
  intro j hj
  obtain rfl | hLt := Nat.eq_or_lt_of_le hj
  · exact hNone
  · exact hEarlier j hLt

/-- From a look that is due on, a wait ends as it has to, with one turn for each look. The number of
looks that are left is known from the deadline, and none of those before has decided. -/
theorem concludes_of_poll {steps : List (Step interface)} {ending : Result WaitEnd} {polls i : Nat}
    {throttle : Throttle} (hPolls : i + polls = timeout.secondsUp + 1) (hTime : i ≤ timeout.secondsUp)
    (hEarlier : ∀ j < i, verdict name (pods j) (tick (pods j) policy) = none)
    (hDue : now ≤ started + .ofSeconds i)
    (hRun : Runs (poll name timeout policy started polls (started + .ofSeconds i) throttle) steps
      ending)
    (hShows : Shows pods now i steps) :
    ∃ more outcome, Concludes name timeout policy pods (i + more) outcome ∧ ending = some outcome ∧
      timeline now steps = turnsRequests name policy started pods i (more + 1) := by
  induction polls generalizing i now throttle steps with
  | zero => omega
  | succ polls ih =>
    cases turn_of_runs hRun with
    | unrested => cases hShows
    | unseen hFailure =>
      obtain ⟨-, rfl, -⟩ := shows_look hShows hDue
      cases hFailure
    | @decided observed pod outcome hVerdict =>
      rw [← List.append_nil (lookSteps ..)] at hShows ⊢
      obtain ⟨-, rfl, -⟩ := shows_lookSteps hShows hDue
      refine ⟨0, outcome, .decided hTime hVerdict hEarlier, rfl, ?_⟩
      rw [timeline_lookSteps hDue, turnsRequests_succ, turnRequests_of_verdict hVerdict]
      rfl
    | undeleted hTick hFailure =>
      -- A deletion does not fail here.
      obtain ⟨-, -, hDelete⟩ := shows_lookSteps hShows hDue
      cases hDelete with
      | answered => cases hFailure
    | late hPause hLate =>
      obtain ⟨rfl, rfl, hPaused⟩ := shows_lookSteps hShows hDue
      obtain ⟨rfl, -, hRequests⟩ := shows_pause hPause hPaused
      -- The look was in time and the deadline has passed, so it was the last one in time.
      have hLast := deadline_le_iff.1 hLate
      obtain rfl : i = timeout.secondsUp := by omega
      refine ⟨0, _, ?_, rfl, ?_⟩
      · rw [Nat.add_zero]
        exact .late (undecided_upTo hEarlier hPause.verdict_eq_none)
      · rw [timeline_lookSteps hDue, hRequests, turnsRequests_succ]
        rfl
    | again hPause hInTime hLater =>
      obtain ⟨rfl, rfl, hPaused⟩ := shows_lookSteps hShows hDue
      obtain ⟨rfl, hRest, hRequests⟩ := shows_pause hPause hPaused
      -- Before the deadline there is a turn left, and the next look is in time again.
      have hBefore := mt deadline_le_iff.2 hInTime
      rw [nextPoll_self] at hLater
      have hUndecided := undecided_upTo hEarlier hPause.verdict_eq_none
      obtain ⟨more, outcome, hConcludes, rfl, hLaterRequests⟩ :=
        ih (by omega) (by omega) (fun j hj => hUndecided j (by omega)) due_le_next hLater hRest
      refine ⟨more + 1, outcome, ?_, rfl, ?_⟩
      · rwa [Nat.add_assoc, Nat.add_comm 1 more] at hConcludes
      · rw [timeline_lookSteps hDue, hRequests, hLaterRequests, ← turnsRequests_succ]

theorem concludes_of_wait {steps : List (Step interface)} {ending : Result WaitEnd}
    (hRun : Runs (wait name timeout policy) steps ending) (hShows : Shows pods started 0 steps) :
    ∃ last outcome, Concludes name timeout policy pods last outcome ∧ ending = some outcome ∧
      timeline started steps = turnsRequests name policy started pods 0 (last + 1) := by
  obtain ⟨t, rest, rfl, hPoll⟩ := runs_now_andThen.1 hRun
  cases hShows with
  | clock hRest =>
    have hStart : started + .ofSeconds 0 = started := rfl
    rw [← hStart] at hPoll
    obtain ⟨last, outcome, hConcludes, hEnding, hRequests⟩ :=
      concludes_of_poll (Nat.zero_add _) (Nat.zero_le _) nofun (Nat.le_add_right _ _) hPoll hRest
    rw [Nat.zero_add] at hConcludes
    exact ⟨last, outcome, hConcludes, hEnding, hRequests⟩

/-- In a cluster whose calls succeed and take no time, a wait ends in one way: with the first
observation that decides, if there is one at most as many seconds after the start as the deadline has,
counting a begun one in full, and else with the deadline. Until then the pod is looked at every
second, and it is deleted right after each look that finds it finished and at no other time. -/
theorem wait_concludes (name : String) (timeout : Duration) (policy : CompletedPodPolicy)
    (pods : Nat → Option Pod) (started : Duration) :
    ∃ last outcome, Concludes name timeout policy pods last outcome ∧
      (∃ steps, Runs (wait name timeout policy) steps (some outcome) ∧ Shows pods started 0 steps) ∧
      ∀ steps ending, Runs (wait name timeout policy) steps ending → Shows pods started 0 steps →
        ending = some outcome ∧
          timeline started steps = turnsRequests name policy started pods 0 (last + 1) := by
  obtain ⟨steps, ending, hRun, hShows⟩ :=
    exists_run_of_shows pods (wait name timeout policy) started 0
  obtain ⟨last, outcome, hConcludes, rfl, -⟩ := concludes_of_wait hRun hShows
  refine ⟨last, outcome, hConcludes, ⟨steps, hRun, hShows⟩, fun others ending hOther hSeen => ?_⟩
  obtain ⟨last', outcome', hConcludes', rfl, hRequests⟩ := concludes_of_wait hOther hSeen
  obtain ⟨rfl, rfl⟩ := hConcludes.unique hConcludes'
  exact ⟨rfl, hRequests⟩

end Turns

/-- A pod with one container, which is in a state. -/
def podIn (state : ContainerState) : Pod where
  spec := some { containers := [{ name := "devpod" }] }
  status := some {
    containerStatuses := some [{ name := "devpod", ready := true, state := some state }] }

/-- A pod that has finished at first, then starts again and is up from the third look on. -/
def comingUp : Nat → Option Pod
  | 0 => some (podIn { terminated := some { exitCode := 0 } })
  | 1 => some (podIn { waiting := some {} })
  | _ => some (podIn { running := some [] })

theorem undecided_comingUp : ∀ i < 2,
    verdict "notes" (comingUp i) (tick (comingUp i) .restart) = none
  | 0, _ => rfl
  | 1, _ => rfl

/-- A pod that is up two seconds after the start is seen by a wait for a second and a half, but not by
one for a second. -/
theorem wait_concludes_at_deadline :
    (∃ steps, Runs (wait "notes" ⟨1500000000⟩ .restart) steps
        (some (.ok (.ready (podIn { running := some [] })))) ∧
      timeline ⟨0⟩ steps = [(⟨0⟩, .getPod "notes"), (⟨0⟩, .deletePod "notes"),
        (.ofSeconds 1, .getPod "notes"), (.ofSeconds 2, .getPod "notes")]) ∧
    ∃ steps, Runs (wait "notes" (.ofSeconds 1) .restart) steps
        (some (.error (timedOut "notes" (.ofSeconds 1)))) ∧
      timeline ⟨0⟩ steps = [(⟨0⟩, .getPod "notes"), (⟨0⟩, .deletePod "notes"),
        (.ofSeconds 1, .getPod "notes")] := by
  constructor
  · obtain ⟨last, outcome, hConcludes, ⟨steps, hRun, hShows⟩, hAll⟩ :=
      wait_concludes "notes" ⟨1500000000⟩ .restart comingUp ⟨0⟩
    have hUp : Concludes "notes" ⟨1500000000⟩ .restart comingUp 2
        (.ok (.ready (podIn { running := some [] }))) :=
      .decided (by decide) rfl undecided_comingUp
    obtain ⟨rfl, rfl⟩ := hConcludes.unique hUp
    exact ⟨steps, hRun, (hAll steps _ hRun hShows).2⟩
  · obtain ⟨last, outcome, hConcludes, ⟨steps, hRun, hShows⟩, hAll⟩ :=
      wait_concludes "notes" (.ofSeconds 1) .restart comingUp ⟨0⟩
    have hLate : Concludes "notes" (.ofSeconds 1) .restart comingUp 1
        (.error (timedOut "notes" (.ofSeconds 1))) :=
      .late fun i hi => undecided_comingUp i (Nat.lt_succ_of_le hi)
    obtain ⟨rfl, rfl⟩ := hConcludes.unique hLate
    exact ⟨steps, hRun, (hAll steps _ hRun hShows).2⟩

end PodWorkspace.Readiness
