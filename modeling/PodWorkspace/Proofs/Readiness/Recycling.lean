import PodWorkspace.Proofs.Cluster.Request
import PodWorkspace.Proofs.Readiness.Wait
import PodWorkspace.Proofs.Split

/-! The deletions of a wait. It deletes a pod only right after a look at it that showed it finished,
and changes nothing else. Where it has a value after a deletion, either a later look showed the pod
up, or one found none. -/

namespace PodWorkspace.Readiness

open Cluster Program

/-! ### Steps that only recycle -/

/-- Steps in which nothing is changed but a pod, which is deleted right after a look at it that showed
it finished. -/
inductive OnlyRecycles (name : String) (policy : CompletedPodPolicy) :
    List (Step interface) → Prop
  | nil : OnlyRecycles name policy []
  | quiet {step : Step interface} {rest : List (Step interface)}
      (hStep : step.asks Request.changesObjects = false) (hRest : OnlyRecycles name policy rest) :
      OnlyRecycles name policy (step :: rest)
  | recycled {pod : Option Pod} {container : String} {answer : Result Unit}
      {rest : List (Step interface)} (hTick : tick pod policy = .recycle container)
      (hRest : OnlyRecycles name policy rest) :
      OnlyRecycles name policy
        (.call (.getPod name) (some (.ok pod)) :: .call (.deletePod name) answer :: rest)

variable {steps before after : List (Step interface)} {name : String}
  {timeout started due : Duration} {policy : CompletedPodPolicy}

namespace OnlyRecycles

/-- Whatever is changed is the pod, and the step before has shown it finished. -/
theorem follows_look (h : OnlyRecycles name policy steps) {r : Request} {a : Result r.Answer}
    (hSteps : steps = before ++ .call r a :: after) (hChanges : r.changesObjects = true) :
    r = .deletePod name ∧ ∃ lead pod container,
      before = lead ++ [.call (.getPod name) (some (.ok pod))] ∧
      tick pod policy = .recycle container := by
  induction h generalizing before with
  | nil => simp at hSteps
  | @quiet step _ hStep hRest ih =>
    cases before with
    | nil =>
      obtain ⟨rfl, -⟩ := List.cons.inj hSteps
      simp [hChanges] at hStep
    | cons _ before =>
      obtain ⟨rfl, hTail⟩ := List.cons.inj hSteps
      obtain ⟨hDelete, lead, pod, container, rfl, hTick⟩ := ih hTail
      exact ⟨hDelete, step :: lead, pod, container, rfl, hTick⟩
  | @recycled pod container _ _ hTick hRest ih =>
    -- The look changes nothing, the deletion comes right after it, and the rest is smaller.
    obtain _ | ⟨_, _ | ⟨_, before⟩⟩ := before
    · cases (List.cons.inj hSteps).1
      cases hChanges
    · obtain ⟨rfl, hTail⟩ := List.cons.inj hSteps
      cases (List.cons.inj hTail).1
      exact ⟨rfl, [], pod, container, rfl, hTick⟩
    · obtain ⟨rfl, hTail⟩ := List.cons.inj hSteps
      obtain ⟨rfl, hRest⟩ := List.cons.inj hTail
      obtain ⟨hDelete, lead, pod, container, rfl, hTick⟩ := ih hRest
      exact ⟨hDelete, _ :: _ :: lead, pod, container, rfl, hTick⟩

end OnlyRecycles

/-- A pause deletes the pod when the look before it has shown it finished. -/
theorem onlyRecycles_of_pause {observed : Duration} {pod : Option Pod} {throttle throttle' : Throttle}
    {between : List (Step interface)} (hPause : Pause name policy pod throttle between throttle')
    (hRest : OnlyRecycles name policy after) :
    OnlyRecycles name policy (lookSteps name due observed pod ++ (between ++ after)) := by
  refine .quiet rfl (.quiet rfl ?_)
  cases hPause with
  | told hTick => exact .quiet rfl (.quiet rfl hRest)
  | recycled hTick => exact .recycled hTick hRest

theorem onlyRecycles_poll {polls : Nat} {throttle : Throttle} {ending : Result WaitEnd}
    (h : Runs (poll name timeout policy started polls due throttle) steps ending) :
    OnlyRecycles name policy steps := by
  induction polls generalizing steps due throttle with
  | zero =>
    obtain ⟨rfl, -⟩ := runs_fail.1 h
    exact .nil
  | succ polls ih =>
    cases turn_of_runs h with
    | unrested => exact .quiet rfl .nil
    | unseen _ => exact .quiet rfl (.quiet rfl (.quiet rfl .nil))
    | decided _ => exact .quiet rfl (.quiet rfl (.quiet rfl .nil))
    | undeleted hTick _ => exact .quiet rfl (.quiet rfl (.recycled hTick .nil))
    | late hPause _ => exact onlyRecycles_of_pause hPause (.quiet rfl .nil)
    | again hPause _ hLater => exact onlyRecycles_of_pause hPause (.quiet rfl (ih hLater))

/-- Whatever is answered, a wait changes nothing but a pod that has finished. -/
theorem onlyRecycles_wait {ending : Result WaitEnd}
    (h : Runs (wait name timeout policy) steps ending) : OnlyRecycles name policy steps := by
  obtain ⟨_, rest, rfl, hPoll⟩ := runs_now_andThen.1 h
  exact .quiet rfl (onlyRecycles_poll hPoll)

/-! ### After a deletion -/

/-- Whether some step is a look that shows the pod up. -/
def ShowsReady (name : String) (policy : CompletedPodPolicy) (steps : List (Step interface)) : Prop :=
  ∃ pod, .call (.getPod name) (some (.ok (some pod))) ∈ steps ∧ tick (some pod) policy = .ready

/-- Whether some step is a look that finds no pod. -/
def ShowsAbsent (name : String) (steps : List (Step interface)) : Prop :=
  .call (.getPod name) (some (.ok none)) ∈ steps

/-- Where finished pods are deleted, some of the last steps of a wait with a value show the pod up,
unless they show that there is none. -/
theorem Decides.showsReady_iff {pod : Option Pod} {result : WaitEnd} {inner : List (Step interface)}
    (h : Decides name .restart before pod result) (hInner : inner ⊆ before) :
    ShowsReady name .restart (inner ++ [.call (.getPod name) (some (.ok pod))]) ↔
      ¬ShowsAbsent name (inner ++ [.call (.getPod name) (some (.ok pod))]) := by
  have hUsable := isUsable_of_verdict h.last
  unfold ShowsReady ShowsAbsent
  -- What the last look shows ends the wait, and no look before it shows either.
  cases pod with
  | some p =>
    refine iff_of_true ⟨p, by simp, ready_of_isUsable hUsable⟩ fun hAbsent => ?_
    obtain hMem | hLast := List.mem_append.1 hAbsent
    · cases h.earlier none (hInner hMem)
    · cases List.mem_singleton.1 hLast
  | none =>
    refine iff_of_false (fun ⟨p, hReady, hTick⟩ => ?_) (not_not_intro (by simp))
    obtain hMem | hLast := List.mem_append.1 hReady
    · have hNone := h.earlier _ (hInner hMem)
      rw [hTick] at hNone
      cases hNone
    · cases List.mem_singleton.1 hLast

/-- Steps without a look at the pod show nothing about it. -/
theorem showsReady_append (h : ∀ answer, .call (.getPod name) answer ∉ after) :
    ShowsReady name policy (before ++ after) ↔ ShowsReady name policy before := by
  simp [ShowsReady, h]

theorem showsAbsent_append (h : ∀ answer, .call (.getPod name) answer ∉ after) :
    ShowsAbsent name (before ++ after) ↔ ShowsAbsent name before := by
  simp [ShowsAbsent, h]

/-- A wait that has deleted the pod itself and has a value: it has seen another one up since, unless
it has found that there is none. -/
theorem showsReady_of_recycled {result : WaitEnd} {a : Result Unit}
    (h : Runs (wait name timeout .restart) steps (some (.ok result)))
    (hSteps : steps = before ++ .call (.deletePod name) a :: after) :
    ShowsReady name .restart after ↔ ¬ShowsAbsent name after := by
  obtain ⟨lead, pod, rfl, hDecides⟩ := decides_of_wait h
  obtain ⟨inner, rfl, rfl⟩ := split_of_not_mem_right hSteps fun hMem => by
    cases List.mem_singleton.1 hMem
  exact hDecides.showsReady_iff fun step hMem => by simp [hMem]

end PodWorkspace.Readiness
