import PodWorkspace.Proofs.Program.Runs
import PodWorkspace.Proofs.Readiness.Tick

/-! The runs of a wait for a pod. A wait asks only for its pod, or deletes it, and takes one turn after
another: each of its observations ends it, or the next one follows unless the deadline has passed.
When a wait has a value, its last step is the observation that ended it, and none before that does. -/

namespace PodWorkspace.Readiness

open Cluster Program

/-! ### The parts of a wait -/

section Parts

variable {steps : List (Step interface)} {name : String} {timeout started due : Duration}
  {policy : CompletedPodPolicy}

/-- A look at the pod comes after a sleep; either may be cut off, and the answer may be a failure. -/
theorem runs_observe {ending : Result (Duration × Option Pod)}
    (h : Runs (observe name due) steps ending) :
    (steps = [.sleep due false] ∧
        ending = some (.error (.cancelled s!"wait for pod {name}"))) ∨
      ∃ (observed : Duration) (answer : Result (Option Pod)),
        steps = [.sleep due true, .clock observed, .call (.getPod name) answer] ∧
        ending = some ((answer.getD (.error (.cancelled "get pod"))).map (observed, ·)) := by
  simp only [observe, bind_eq_andThen, pure_eq_done] at h
  obtain ⟨_, _, _, rfl, hRested, hRest⟩ := runs_andThen.1 h
  obtain ⟨r, rfl, hSleep⟩ := runs_cancellable.1 hRested
  obtain ⟨slept, rfl, rfl⟩ := runs_sleepUntil.1 hSleep
  cases slept with
  | false =>
    obtain ⟨rfl, rfl⟩ := runs_fail.1 hRest
    exact .inl ⟨rfl, rfl⟩
  | true =>
    obtain ⟨observed, _, rfl, hLook⟩ := runs_now_andThen.1 hRest
    obtain ⟨_, _, _, rfl, hSeen, hEnd⟩ := runs_andThen.1 hLook
    obtain ⟨answer, rfl, hAsk⟩ := runs_cancellable.1 hSeen
    obtain rfl := runs_ask.1 hAsk
    refine .inr ⟨observed, answer, ?_⟩
    rcases answer with _ | (f | pod)
    · obtain ⟨rfl, rfl⟩ := runs_fail.1 hEnd
      exact ⟨rfl, rfl⟩
    · obtain ⟨rfl, rfl⟩ := runs_fail.1 hEnd
      exact ⟨rfl, rfl⟩
    · obtain ⟨rfl, rfl⟩ := runs_done.1 hEnd
      exact ⟨rfl, rfl⟩

theorem runs_tellPending {pod : Option Pod} {reason : String} {throttle : Throttle}
    {ending : Result Throttle} :
    Runs (tellPending name pod reason throttle) steps ending ↔
      ∃ t, steps = [.clock t] ∧ ending = some (.ok (throttle.allowAt t).2) := by
  simp only [tellPending, bind_eq_andThen, pure_eq_done, runs_now_andThen]
  constructor
  · rintro ⟨t, rest, rfl, h⟩
    refine ⟨t, ?_⟩
    split at h <;> simpa using h
  · rintro ⟨t, rfl, rfl⟩
    refine ⟨t, [], rfl, ?_⟩
    split <;> simp

/-- A wait goes on after a look at the clock, unless that is too late. -/
theorem runs_unlessLate {next : Action WaitEnd} {ending : Result WaitEnd} :
    Runs (unlessLate name timeout started next) steps ending ↔
      ∃ t rest, steps = .clock t :: rest ∧
        if started + timeout ≤ t then rest = [] ∧ ending = some (.error (timedOut name timeout))
        else Runs next rest ending := by
  simp only [unlessLate, bind_eq_andThen, runs_now_andThen]
  refine exists_congr fun t => exists_congr fun rest => and_congr_right fun _ => ?_
  split <;> simp

end Parts

/-! ### The turns of a wait -/

/-- A look at the pod that shows it. -/
def lookSteps (name : String) (due observed : Duration) (pod : Option Pod) : List (Step interface) :=
  [.sleep due true, .clock observed, .call (.getPod name) (some (.ok pod))]

/-- What happens between an observation that does not end a wait and the look at its deadline: it is
told why the pod is not up, or the pod is deleted because it has finished. -/
inductive Pause (name : String) (policy : CompletedPodPolicy) (pod : Option Pod)
    (throttle : Throttle) : List (Step interface) → Throttle → Prop
  | told {reason : String} {t : Duration} (hTick : tick pod policy = .pending reason) :
      Pause name policy pod throttle [.clock t] (throttle.allowAt t).2
  | recycled {container : String} (hTick : tick pod policy = .recycle container) :
      Pause name policy pod throttle [.call (.deletePod name) (some (.ok ()))] throttle

theorem Pause.verdict_eq_none {name : String} {policy : CompletedPodPolicy} {pod : Option Pod}
    {throttle throttle' : Throttle} {between : List (Step interface)}
    (h : Pause name policy pod throttle between throttle') :
    verdict name pod (tick pod policy) = none := by
  cases h with
  | told hTick | recycled hTick => rw [hTick]; rfl

/-- There is no look at the pod in a pause. -/
theorem Pause.not_mem {name : String} {policy : CompletedPodPolicy} {pod other : Option Pod}
    {throttle throttle' : Throttle} {between : List (Step interface)}
    (h : Pause name policy pod throttle between throttle') :
    .call (.getPod name) (some (.ok other)) ∉ between := by
  cases h with
  | told | recycled => simp

/-- The ways in which one turn of a wait goes, with all that follows on it. -/
inductive Turn (name : String) (timeout : Duration) (policy : CompletedPodPolicy)
    (started : Duration) (polls : Nat) (due : Duration) (throttle : Throttle) :
    List (Step interface) → Result WaitEnd → Prop
  /-- The sleep before the look is cut off. -/
  | unrested : Turn name timeout policy started polls due throttle [.sleep due false]
      (some (.error (.cancelled s!"wait for pod {name}")))
  /-- The pod could not be looked at. -/
  | unseen {observed : Duration} {answer : Result (Option Pod)} {f : Failure}
      (hFailure : answer.getD (.error (.cancelled "get pod")) = .error f) :
      Turn name timeout policy started polls due throttle
        [.sleep due true, .clock observed, .call (.getPod name) answer] (some (.error f))
  /-- The observation ends the wait. -/
  | decided {observed : Duration} {pod : Option Pod} {outcome : Except Failure WaitEnd}
      (hVerdict : verdict name pod (tick pod policy) = some outcome) :
      Turn name timeout policy started polls due throttle (lookSteps name due observed pod)
        (some outcome)
  /-- A pod that has finished could not be deleted. -/
  | undeleted {observed : Duration} {pod : Option Pod} {container : String} {answer : Result Unit}
      {f : Failure} (hTick : tick pod policy = .recycle container)
      (hFailure : answer.getD (.error (.cancelled "delete pod")) = .error f) :
      Turn name timeout policy started polls due throttle
        (lookSteps name due observed pod ++ [.call (.deletePod name) answer]) (some (.error f))
  /-- The deadline has passed. -/
  | late {observed t : Duration} {pod : Option Pod} {between : List (Step interface)}
      {throttle' : Throttle} (hPause : Pause name policy pod throttle between throttle')
      (hLate : started + timeout ≤ t) :
      Turn name timeout policy started polls due throttle
        (lookSteps name due observed pod ++ (between ++ [.clock t]))
        (some (.error (timedOut name timeout)))
  /-- The wait goes on. -/
  | again {observed t : Duration} {pod : Option Pod} {between later : List (Step interface)}
      {throttle' : Throttle} {ending : Result WaitEnd}
      (hPause : Pause name policy pod throttle between throttle')
      (hInTime : ¬started + timeout ≤ t)
      (hLater : Runs (poll name timeout policy started polls (nextPoll due observed) throttle') later
        ending) :
      Turn name timeout policy started polls due throttle
        (lookSteps name due observed pod ++ (between ++ .clock t :: later)) ending

section Turns

variable {steps rest : List (Step interface)} {name : String} {timeout started due : Duration}
  {policy : CompletedPodPolicy} {polls : Nat} {throttle : Throttle} {ending : Result WaitEnd}

/-- After a pause the deadline decides whether the wait goes on. -/
theorem turn_of_pause {observed : Duration} {pod : Option Pod} {between : List (Step interface)}
    {throttle' : Throttle} (hPause : Pause name policy pod throttle between throttle')
    (h : Runs (unlessLate name timeout started
      (poll name timeout policy started polls (nextPoll due observed) throttle')) rest ending) :
    Turn name timeout policy started polls due throttle
      (lookSteps name due observed pod ++ (between ++ rest)) ending := by
  obtain ⟨t, later, rfl, hLater⟩ := runs_unlessLate.1 h
  split at hLater
  · rename_i hLate
    obtain ⟨rfl, rfl⟩ := hLater
    exact .late hPause hLate
  · rename_i hInTime
    exact .again hPause hInTime hLater

/-- A pod that has finished is deleted, and then the deadline is looked at. -/
theorem turn_of_recycle {observed : Duration} {pod : Option Pod} {container : String}
    (hTick : tick pod policy = .recycle container)
    (h : Runs (andThen (fun _ => unlessLate name timeout started
        (poll name timeout policy started polls (nextPoll due observed) throttle))
      (cancellable "delete pod" (ask (I := interface) (.deletePod name)))) rest ending) :
    Turn name timeout policy started polls due throttle
      (lookSteps name due observed pod ++ rest) ending := by
  obtain ⟨deleting, _, later, rfl, hDeleting, hLater⟩ := runs_andThen.1 h
  obtain ⟨answer, rfl, hDelete⟩ := runs_cancellable.1 hDeleting
  obtain rfl := runs_ask.1 hDelete
  rcases answer with _ | (f | _)
  · obtain ⟨rfl, rfl⟩ := runs_fail.1 hLater
    exact .undeleted hTick rfl
  · obtain ⟨rfl, rfl⟩ := runs_fail.1 hLater
    exact .undeleted hTick rfl
  · exact turn_of_pause (.recycled hTick) hLater

theorem turn_of_verdict {observed : Duration} {pod : Option Pod} {t : Tick}
    {outcome : Except Failure WaitEnd} (hTick : tick pod policy = t)
    (hVerdict : verdict name pod t = some outcome) (h : rest = [] ∧ ending = some outcome) :
    Turn name timeout policy started polls due throttle
      (lookSteps name due observed pod ++ rest) ending := by
  obtain ⟨rfl, rfl⟩ := h
  rw [List.append_nil]
  exact .decided (hTick ▸ hVerdict)

/-- Every observation of a wait begins a turn of it. -/
theorem turn_of_runs
    (h : Runs (poll name timeout policy started (polls + 1) due throttle) steps ending) :
    Turn name timeout policy started polls due throttle steps ending := by
  simp only [poll, bind_eq_andThen, pure_eq_done] at h
  obtain ⟨looking, r, rest, rfl, hLook, hRest⟩ := runs_andThen.1 h
  obtain ⟨rfl, rfl⟩ | ⟨observed, answer, rfl, rfl⟩ := runs_observe hLook
  · obtain ⟨rfl, rfl⟩ := runs_fail.1 hRest
    exact .unrested
  rcases answer with _ | (f | pod)
  · obtain ⟨rfl, rfl⟩ := runs_fail.1 hRest
    exact .unseen rfl
  · obtain ⟨rfl, rfl⟩ := runs_fail.1 hRest
    exact .unseen rfl
  dsimp only [Option.getD_some, Except.map, resume_ok] at hRest
  -- First come the decisions that end the wait with a value, then the one that fails it, and last
  -- the two after which it goes on.
  split at hRest
  · rename_i hTick
    exact turn_of_verdict hTick rfl (runs_done.1 hRest)
  · rename_i hTick
    exact turn_of_verdict hTick rfl (runs_done.1 (runs_log.1 hRest))
  · rename_i hTick
    exact turn_of_verdict hTick rfl (runs_done.1 (runs_log.1 hRest))
  · rename_i hTick
    exact turn_of_verdict hTick rfl (runs_done.1 hRest)
  · rename_i hTick
    exact turn_of_verdict hTick rfl (runs_done.1 hRest)
  · rename_i hTick
    exact turn_of_verdict hTick rfl (runs_fail.1 hRest)
  · rename_i hTick
    exact turn_of_recycle hTick (runs_log.1 hRest)
  · rename_i hTick
    obtain ⟨telling, _, later, rfl, hTelling, hLater⟩ := runs_andThen.1 hRest
    obtain ⟨t, rfl, rfl⟩ := runs_tellPending.1 hTelling
    exact turn_of_pause (.told hTick) hLater

/-- How a wait comes to its value: its last step is a look that ends it with that, and no look before
does. -/
structure Decides (name : String) (policy : CompletedPodPolicy) (before : List (Step interface))
    (pod : Option Pod) (result : WaitEnd) : Prop where
  last : verdict name pod (tick pod policy) = some (.ok result)
  earlier : ∀ other, .call (.getPod name) (some (.ok other)) ∈ before →
    verdict name other (tick other policy) = none

theorem decides_of_poll {result : WaitEnd}
    (h : Runs (poll name timeout policy started polls due throttle) steps (some (.ok result))) :
    ∃ before pod, steps = before ++ [.call (.getPod name) (some (.ok pod))] ∧
      Decides name policy before pod result := by
  induction polls generalizing steps due throttle with
  | zero => simp [poll] at h
  | succ polls ih =>
    cases turn_of_runs h with
    | @decided observed pod _ hVerdict =>
      exact ⟨[.sleep due true, .clock observed], pod, rfl, hVerdict, by simp⟩
    | @again observed t found between later throttle' _ hPause hInTime hLater =>
      obtain ⟨before, pod, rfl, hDecides⟩ := ih hLater
      refine ⟨lookSteps name due observed found ++ (between ++ .clock t :: before), pod, by simp,
        hDecides.last, fun other hMem => ?_⟩
      simp only [lookSteps, List.mem_append, List.mem_cons, reduceCtorEq, false_or,
        List.not_mem_nil, or_false] at hMem
      obtain hLook | hBetween | hLater := hMem
      · cases hLook
        exact hPause.verdict_eq_none
      · exact absurd hBetween hPause.not_mem
      · exact hDecides.earlier other hLater

/-- The last step of a wait that has a value is the observation that ended it so. -/
theorem decides_of_wait {result : WaitEnd}
    (h : Runs (wait name timeout policy) steps (some (.ok result))) :
    ∃ before pod, steps = before ++ [.call (.getPod name) (some (.ok pod))] ∧
      Decides name policy before pod result := by
  obtain ⟨started, rest, rfl, hPoll⟩ := runs_now_andThen.1 h
  obtain ⟨before, pod, rfl, hDecides⟩ := decides_of_poll hPoll
  exact ⟨.clock started :: before, pod, rfl, hDecides.last, fun other hMem =>
    hDecides.earlier other (by simpa using hMem)⟩

end Turns

section AsksOnly

variable {name : String} {timeout started due : Duration} {policy : CompletedPodPolicy}

/-! ### What a wait asks -/

/-- What a wait for a pod may ask: for the pod, or to delete it. -/
def IsAbout (name : String) (r : Request) : Prop :=
  r = .getPod name ∨ r = .deletePod name

theorem asksOnly_observe : AsksOnly (IsAbout name) (observe name due) :=
  ((asksOnly_sleepUntil _).cancellable _).andThen fun _ => asksOnly_now.andThen fun _ =>
    ((asksOnly_ask (I := interface) (.inl rfl)).cancellable _).andThen fun _ => asksOnly_done _

theorem asksOnly_tellPending {pod : Option Pod} {reason : String} {throttle : Throttle} :
    AsksOnly (IsAbout name) (tellPending name pod reason throttle) := by
  refine asksOnly_now.andThen fun t => ?_
  dsimp only
  split
  · exact (asksOnly_note _).andThen fun _ => asksOnly_done _
  · exact asksOnly_done _

theorem asksOnly_unlessLate {next : Action WaitEnd} (h : AsksOnly (IsAbout name) next) :
    AsksOnly (IsAbout name) (unlessLate name timeout started next) := by
  refine asksOnly_now.andThen fun t => ?_
  split
  · exact asksOnly_fail _
  · exact h

theorem asksOnly_poll {polls : Nat} {throttle : Throttle} :
    AsksOnly (IsAbout name) (poll name timeout policy started polls due throttle) := by
  induction polls generalizing due throttle with
  | zero => exact asksOnly_fail _
  | succ polls ih =>
    refine asksOnly_observe.andThen fun ⟨observed, pod⟩ => ?_
    dsimp only
    split
    · exact asksOnly_done _
    · exact (asksOnly_note _).andThen fun _ => asksOnly_done _
    · exact (asksOnly_note _).andThen fun _ => asksOnly_done _
    · exact asksOnly_done _
    · exact asksOnly_done _
    · exact asksOnly_fail _
    · exact (asksOnly_note _).andThen fun _ =>
        ((asksOnly_ask (I := interface) (.inr rfl)).cancellable _).andThen fun _ =>
          asksOnly_unlessLate ih
    · exact asksOnly_tellPending.andThen fun _ => asksOnly_unlessLate ih

theorem asksOnly_wait : AsksOnly (IsAbout name) (wait name timeout policy) :=
  asksOnly_now.andThen fun _ => asksOnly_poll

end AsksOnly

end PodWorkspace.Readiness
