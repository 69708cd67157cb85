import PodWorkspace.Proofs.Simulation.Follow
import PodWorkspace.Proofs.Simulation.Frame
import PodWorkspace.Proofs.Workspace.Recycling
import PodWorkspace.Proofs.Workspace.SingleCalls

/-! Launches of a workspace that use one cluster at the same time, call by call. Between two calls of
one of them the others may have theirs, so what it has seen need not hold any more when it acts. A pod
is deleted by its name, whichever pod has the name by then. -/

namespace PodWorkspace

open Cluster Program

namespace Simulation

/-! ### The annotations of a pod -/

namespace Phase

theorem annotations_of_shown {phase : Phase} {pod shown : Pod}
    (h : phase.shown pod = .ok (some shown)) :
    shown.metadata.annotations = pod.metadata.annotations := by
  cases phase <;> cases h <;> rfl

end Phase

namespace Store

variable {around : Surroundings} {s s' t : Store} {name : String} {r : Request} {pod shown : Pod}
  {annotations : Option (Dict String)}

/-- The annotations of the pod of a name, if there is one. -/
def podAnnotations (s : Store) (name : String) : Option (Option (Dict String)) :=
  (s.pod? name).map (·.metadata.annotations)

theorem podAnnotations_of_look (h : (s.observePod name).1 = .ok (some shown)) :
    s.podAnnotations name = some shown.metadata.annotations := by
  unfold podAnnotations pod?
  unfold observePod at h
  split at h
  · cases h
  · rename_i stored hStored
    dsimp only at h
    rw [hStored]
    split at h
    · cases h
    · rename_i hShown
      cases h
      exact congrArg some (Phase.annotations_of_shown hShown).symm
    · cases h

theorem Keeps.podAnnotations {other : String} (h : Keeps other s s')
    (hPod : s'.podAnnotations name = some annotations) :
    s.podAnnotations name = some annotations := by
  unfold Store.podAnnotations at hPod ⊢
  by_cases hName : name = other
  · subst hName
    obtain hSame | hLost := h.pod
    · rwa [hSame] at hPod
    · simp [hLost] at hPod
  · rwa [pod?, h.others name hName, ← pod?] at hPod

theorem podAnnotations_createPod
    (h : (s.createPod around pod).2.podAnnotations name = some annotations) :
    s.podAnnotations name = some annotations ∨
      pod.name = name ∧ pod.metadata.annotations = annotations := by
  unfold createPod at h
  split at h
  · exact .inl h
  · by_cases hName : name = pod.name
    · refine .inr ⟨hName.symm, ?_⟩
      simpa [podAnnotations, pod?, hName] using h
    · left
      simpa [podAnnotations, pod?, Dict.get?_insert, hName] using h

/-- A pod has the annotations with which it was created. -/
theorem podAnnotations_answer (h : (s.answer around r).2.podAnnotations name = some annotations) :
    s.podAnnotations name = some annotations ∨
      ∃ created : Pod, r = .createPod created ∧ created.name = name ∧
        created.metadata.annotations = annotations := by
  cases r with
  | createPod created =>
    obtain hSame | hCreated := podAnnotations_createPod h
    · exact .inl hSame
    · exact .inr ⟨created, rfl, hCreated⟩
  | getPod other => exact .inl ((keeps_observePod s other).podAnnotations h)
  | deletePod other => exact .inl ((keeps_erase s other).podAnnotations h)
  | deletePodAndWait other timeout => exact .inl ((keeps_erase s other).podAnnotations h)
  | forceDeletePods selector =>
    simp only [podAnnotations, pod?_forceDeletePods, Option.map_eq_some_iff,
      Option.filter_eq_some_iff] at h ⊢
    obtain ⟨pod, ⟨hPod, -⟩, hSame⟩ := h
    exact .inl ⟨pod, hPod, hSame⟩
  | createNamespace other =>
    refine .inl ?_
    rwa [podAnnotations, pod?, answer, pods_withNamespace] at h
  | podLogs | exec =>
    rw [answer_eq_self rfl rfl] at h
    exact .inl h
  | _ => exact .inl h

end Store

/-! ### A cluster that several programs use -/

def Store.Deletes (s : Store) (name : String) : Request → Prop
  | .deletePod other | .deletePodAndWait other _ => other = name
  | .forceDeletePods selector => ∃ pod, s.pod? name = some pod ∧ selects selector pod = true
  | _ => False

/-- The steps of several programs in the order in which they are taken, each with its program. -/
abbrev Trace (ι : Type) := List (ι × Step interface)

/-- What a cluster may come to by itself. Whatever becomes of a pod, it keeps its annotations for as
long as it is there; and no pod comes into being. -/
def Store.DriftsTo (s s' : Store) : Prop :=
  ∀ name annotations, s'.podAnnotations name = some annotations →
    s.podAnnotations name = some annotations

/-- What becomes of the objects of a cluster at a step of a program that uses it. Nothing is said about
the clock, and sleeps may be cut off. -/
inductive Store.Takes (around : Surroundings) (s : Store) : Step interface → Store → Prop
  | answered {r : Request} :
      Takes around s (.call r (some (s.answer around r).1)) (s.answer around r).2
  /-- A deletion has begun, and the pods are there for a while. -/
  | begun {r : Request} (hDeletes : r.deletesPods = true) :
      Takes around s (.call r (some (s.answer around r).1)) s
  /-- The call has failed, or it was cut off, without an effect. -/
  | lost {r : Request} {answer : Result r.Answer} (hFailed : ∀ a, answer ≠ some (.ok a)) :
      Takes around s (.call r answer) s
  /-- The call has failed, or it was cut off, when it had its effect. -/
  | unheard {r : Request} {answer : Result r.Answer} (hFailed : ∀ a, answer ≠ some (.ok a)) :
      Takes around s (.call r answer) (s.answer around r).2
  | clock {now : Duration} : Takes around s (.clock now) s
  | sleep {till : Duration} {slept : Bool} : Takes around s (.sleep till slept) s

/-- The objects of a cluster before and after some steps of the programs that use it. -/
inductive Shares {ι : Type} (around : Surroundings) : Store → Trace ι → Store → Prop
  | nil (s : Store) : Shares around s [] s
  | drift {s t s' : Store} {trace : Trace ι} (hDrifts : s.DriftsTo t)
      (hRest : Shares around t trace s') : Shares around s trace s'
  | step {s t s' : Store} {trace : Trace ι} {p : ι} {step : Step interface}
      (hTakes : s.Takes around step t) (hRest : Shares around t trace s') :
      Shares around s ((p, step) :: trace) s'

section Shares

variable {ι : Type} {around : Surroundings} {s s' t : Store} {name : String}
  {annotations : Option (Dict String)} {trace before after : Trace ι}

theorem Store.Takes.podAnnotations {step : Step interface} (h : s.Takes around step t)
    (hPod : t.podAnnotations name = some annotations) :
    s.podAnnotations name = some annotations ∨
      ∃ created answer, step = .call (.createPod created) answer ∧ created.name = name ∧
        created.metadata.annotations = annotations := by
  cases h with
  | answered | unheard =>
    obtain hSame | ⟨created, rfl, hCreated⟩ := podAnnotations_answer hPod
    · exact .inl hSame
    · exact .inr ⟨created, _, rfl, hCreated⟩
  | begun | lost | clock | sleep => exact .inl hPod

theorem Store.Takes.podAnnotations_of_look {shown : Pod}
    (h : s.Takes around (.call (.getPod name) (some (.ok (some shown)))) t) :
    s.podAnnotations name = some shown.metadata.annotations := by
  generalize hStep : (Step.call (.getPod name) (some (.ok (some shown))) : Step interface) = step at h
  cases h with
  | answered =>
    injection hStep with hRequest hAnswer
    subst hRequest
    exact Store.podAnnotations_of_look (Option.some.inj (eq_of_heq hAnswer)).symm
  | begun hDeletes =>
    injection hStep with hRequest
    subst hRequest
    cases hDeletes
  | lost hFailed | unheard hFailed =>
    injection hStep with hRequest hAnswer
    subst hRequest
    exact absurd (eq_of_heq hAnswer).symm (hFailed _)
  | clock | sleep => cases hStep

namespace Shares

theorem split (h : Shares around s (before ++ after) s') :
    ∃ between, Shares around s before between ∧ Shares around between after s' := by
  generalize hTrace : before ++ after = trace at h
  induction h generalizing before with
  | nil s =>
    obtain ⟨rfl, rfl⟩ := List.append_eq_nil_iff.1 hTrace
    exact ⟨s, .nil s, .nil s⟩
  | drift hDrifts _ ih =>
    obtain ⟨between, hBefore, hAfter⟩ := ih hTrace
    exact ⟨between, .drift hDrifts hBefore, hAfter⟩
  | @step s t s' trace p step hTakes hRest ih =>
    cases before with
    | nil =>
      obtain rfl := hTrace
      exact ⟨s, .nil s, .step hTakes hRest⟩
    | cons e before =>
      obtain ⟨rfl, hTail⟩ := List.cons.inj hTrace
      obtain ⟨between, hBefore, hAfter⟩ := ih hTail
      exact ⟨between, .step hTakes hBefore, hAfter⟩

/-- The annotations of a pod are those that the pod of its name had before, or those with which one of
the programs has created a pod of its name since. -/
theorem podAnnotations (h : Shares around s trace s')
    (hPod : s'.podAnnotations name = some annotations) :
    s.podAnnotations name = some annotations ∨
      ∃ p created answer, (p, .call (.createPod created) answer) ∈ trace ∧ created.name = name ∧
        created.metadata.annotations = annotations := by
  induction h with
  | nil => exact .inl hPod
  | drift hDrifts _ ih => exact (ih hPod).imp_left (hDrifts _ _)
  | @step _ _ _ _ p _ hTakes _ ih =>
    obtain hEarlier | ⟨q, created, answer, hMem, hCreated⟩ := ih hPod
    · obtain hSame | ⟨created, answer, rfl, hCreated⟩ := hTakes.podAnnotations hEarlier
      · exact .inl hSame
      · exact .inr ⟨p, created, answer, List.mem_cons_self, hCreated⟩
    · exact .inr ⟨q, created, answer, List.mem_cons_of_mem _ hMem, hCreated⟩

/-- Since a look has shown a pod, only the creation of another one changes the annotations that the pod
of this name has. -/
theorem podAnnotations_of_look {p : ι} {shown : Pod}
    (h : Shares around s ((p, .call (.getPod name) (some (.ok (some shown)))) :: trace) s')
    (hPod : s'.podAnnotations name = some annotations) :
    shown.metadata.annotations = annotations ∨
      ∃ p created answer, (p, .call (.createPod created) answer) ∈ trace ∧ created.name = name ∧
        created.metadata.annotations = annotations := by
  generalize hTrace :
    (p, Step.call (I := interface) (.getPod name) (some (.ok (some shown)))) :: trace = whole at h
  induction h with
  | nil => cases hTrace
  | drift hDrifts _ ih => exact ih hPod hTrace
  | step hTakes hRest _ =>
    cases hTrace
    obtain hEarlier | hCreated := hRest.podAnnotations hPod
    · obtain hSame | ⟨_, _, ⟨⟩, -⟩ := hTakes.podAnnotations hEarlier
      rw [hTakes.podAnnotations_of_look] at hSame
      exact .inl (Option.some.inj hSame)
    · exact .inr hCreated

end Shares

end Shares

/-! ### The steps of one program -/

namespace Trace

variable {ι : Type} [DecidableEq ι] {p : ι} {step : Step interface} {trace : Trace ι}

def of (trace : Trace ι) (p : ι) : List (Step interface) :=
  trace.filterMap fun e => if e.1 = p then some e.2 else none

theorem of_append (before after : Trace ι) (p : ι) :
    of (before ++ after) p = before.of p ++ after.of p :=
  List.filterMap_append

theorem of_cons_self (p : ι) (step : Step interface) (trace : Trace ι) :
    of ((p, step) :: trace) p = step :: trace.of p :=
  List.filterMap_cons_some (if_pos rfl)

theorem of_map_self (p : ι) (steps : List (Step interface)) : of (steps.map (p, ·)) p = steps := by
  simp [of]

theorem of_map_of_ne {q : ι} (h : q ≠ p) (steps : List (Step interface)) :
    of (steps.map (q, ·)) p = [] := by
  simp [of, h]

theorem mem_of : step ∈ trace.of p ↔ (p, step) ∈ trace := by
  simp [of]

/-- A step of one of the programs, among all steps. -/
theorem exists_of_of_eq {lead since : List (Step interface)}
    (h : trace.of p = lead ++ step :: since) :
    ∃ before after : Trace ι, trace = before ++ (p, step) :: after ∧ before.of p = lead ∧
      after.of p = since := by
  obtain ⟨before, rest, rfl, hBefore, hRest⟩ := List.filterMap_eq_append_iff.1 h
  obtain ⟨others, ⟨q, taken⟩, after, rfl, hOthers, hStep, hAfter⟩ :=
    List.filterMap_eq_cons_iff.1 hRest
  obtain ⟨rfl, rfl⟩ : q = p ∧ taken = step := by simpa using hStep
  have hNone : Trace.of others q = [] := List.filterMap_eq_nil_iff.2 hOthers
  refine ⟨before ++ others, after, by simp, ?_, hAfter⟩
  rw [of_append, hNone, List.append_nil]
  exact hBefore

end Trace

/-! ### Programs that take turns -/

section Turns

variable {ι : Type} {around : Surroundings} {s : Store}

/-- The next step of a program in a cluster that answers every call, with what is left of the program
and the objects after it. -/
def Store.advance (around : Surroundings) (s : Store) :
    Action Unit → Option (Step interface) × Action Unit × Store
  | .log _ rest => s.advance around rest
  | .call _ r next =>
    (some (.call r (some (s.answer around r).1)), next (some (s.answer around r).1),
      (s.answer around r).2)
  | .clock next => (some (.clock ⟨0⟩), next ⟨0⟩, s)
  | .sleep _ till next => (some (.sleep till true), next true, s)
  | x => (none, x, s)

theorem Store.runs_advance {x : Action Unit} {steps : List (Step interface)} {ending : Result Unit}
    (h : Runs (s.advance around x).2.1 steps ending) :
    Runs x ((s.advance around x).1.toList ++ steps) ending := by
  induction x with
  | done | fail | cutOff => exact h
  | log e rest ih => exact .log (ih h)
  | call deadline r next => exact .call _ h
  | clock next => exact .clock _ h
  | sleep deadline till next => exact .sleep _ h

theorem Store.shares_advance {p : ι} {x : Action Unit} {trace : Trace ι} {s' : Store}
    (h : Shares around (s.advance around x).2.2 trace s') :
    Shares around s ((s.advance around x).1.toList.map (p, ·) ++ trace) s' := by
  induction x with
  | done | fail | cutOff => exact h
  | log e rest ih => exact ih h
  | call deadline r next => exact .step .answered h
  | clock next => exact .step .clock h
  | sleep deadline till next => exact .step .sleep h

variable [DecidableEq ι]

/-- Programs after some turns: the steps that they have taken, what is left of them, and the
objects. -/
structure Turns (ι : Type) where
  trace : Trace ι
  left : ι → Action Unit
  store : Store

def Store.takeTurns (around : Surroundings) :
    (turns : List ι) → (programs : ι → Action Unit) → Store → Turns ι
  | [], programs, s => ⟨[], programs, s⟩
  | p :: turns, programs, s =>
    let (step, rest, t) := s.advance around (programs p)
    let later := takeTurns around turns (Function.update programs p rest) t
    { later with trace := step.toList.map (p, ·) ++ later.trace }

theorem shares_takeTurns (turns : List ι) (programs : ι → Action Unit) (s : Store) :
    Shares around s (Store.takeTurns around turns programs s).trace
      (Store.takeTurns around turns programs s).store := by
  induction turns generalizing programs s with
  | nil => exact .nil s
  | cons p turns ih => exact Store.shares_advance (ih _ _)

theorem runs_takeTurns (turns : List ι) (programs : ι → Action Unit) (s : Store) {p : ι}
    {steps : List (Step interface)} {ending : Result Unit}
    (h : Runs ((Store.takeTurns around turns programs s).left p) steps ending) :
    Runs (programs p) ((Store.takeTurns around turns programs s).trace.of p ++ steps) ending := by
  induction turns generalizing programs s with
  | nil => exact h
  | cons q turns ih =>
    have hLater := ih _ _ h
    rw [Store.takeTurns, Trace.of_append, List.append_assoc]
    by_cases hTurn : q = p
    · subst hTurn
      rw [Function.update_self] at hLater
      rw [Trace.of_map_self]
      exact Store.runs_advance hLater
    · rw [Function.update_of_ne (Ne.symm hTurn)] at hLater
      rw [Trace.of_map_of_ne hTurn]
      exact hLater

theorem trace_takeTurns_concat (turns : List ι) (programs : ι → Action Unit) (s : Store) (p : ι) :
    (Store.takeTurns around (turns ++ [p]) programs s).trace =
      (Store.takeTurns around turns programs s).trace ++
        (((Store.takeTurns around turns programs s).store.advance around
          ((Store.takeTurns around turns programs s).left p)).1.toList.map (p, ·)) := by
  induction turns generalizing programs s with
  | nil => simp [Store.takeTurns]
  | cons q turns ih =>
    rw [List.cons_append, Store.takeTurns, Store.takeTurns]
    simp only [ih, List.append_assoc]

end Turns

end Simulation

/-! ### Launches at the same time -/

namespace Launch

open Simulation

variable {ι : Type} [DecidableEq ι] {w : Workspace} {launch : ι → Launch} {p : ι}
  {around : Surroundings} {s t : Store} {before after : Trace ι} {r : Request} {a : Result r.Answer}
  {pod : Pod}

/-- Whether the steps that each program takes are those of a run of its launch, as far as it has
come. -/
def AreLaunched (w : Workspace) (launch : ι → Launch) (trace : Trace ι) : Prop :=
  ∀ p, ∃ rest ending, Runs ((launch p).inSingleCalls w) (trace.of p ++ rest) ending

/-- Why a launch deletes a pod that carries the options of its workspace. -/
inductive DeletesCurrent (w : Workspace) (p : ι) (before : Trace ι) (pod : Pod) : Request → Prop
  /-- It has just seen the pod of the workspace, and that it has finished. -/
  | finished {lead : List (Step interface)} {shown : Option Pod} {container : String}
      (hSeen : before.of p = lead ++ [.call (.getPod w.resource) (some (.ok shown))])
      (hTick : Readiness.tick shown w.options.completedPodPolicy = .recycle container) :
      DeletesCurrent w p before pod (.deletePod w.resource)
  /-- It has seen a pod that does not carry them, and since then another launch has created this
  one. -/
  | overtaken {lead since : Trace ι} {shown created : Pod} {q : ι} {answer : Result Unit}
      (hBefore : before =
        lead ++ (p, .call (.getPod w.resource) (some (.ok (some shown)))) :: since)
      (hOther : ¬shown.Carries w.options.manifest) (hOthers : q ≠ p)
      (hCreated : (q, .call (.createPod created) answer) ∈ since) (hName : created.name = w.resource)
      (hSame : created.metadata.annotations = pod.metadata.annotations) :
      DeletesCurrent w p before pod (.deletePod w.resource)
  /-- It removes the detection pods, and the pod has their label. -/
  | marked (hMarked : Store.selects w.name.detectionSelector pod = true) :
      DeletesCurrent w p before pod (.forceDeletePods w.name.detectionSelector)

theorem deletesPods_of_deletes (h : t.Deletes w.resource r) : r.deletesPods = true := by
  cases r <;> first | rfl | exact h.elim

/-- Whatever launches of a workspace use a cluster at the same time: one of them deletes a pod that
carries their options only when it has just seen the pod finished, when another one has created it
since the first one saw one that does not carry them, or when it is labelled as a detection pod. -/
theorem deletesCurrent_of_deletes
    (hLaunched : AreLaunched w launch (before ++ (p, .call r a) :: after))
    (hShares : Shares around s before t) (hDeletes : t.Deletes w.resource r)
    (hPod : t.pod? w.resource = some pod) (hCarries : pod.Carries w.options.manifest) :
    DeletesCurrent w p before pod r := by
  obtain ⟨rest, ending, hRun⟩ := hLaunched p
  rw [Trace.of_append, Trace.of_cons_self, List.append_assoc, List.cons_append] at hRun
  have hGrounds := isGrounded hRun _ r a _ rfl (deletesPods_of_deletes hDeletes)
  generalize hSeen : before.of p = seen at hGrounds
  cases hGrounds with
  | finished hTick => exact .finished hSeen hTick
  | @outdated lead since shown hOther hSince =>
    obtain ⟨lead, since, rfl, -, rfl⟩ := Trace.exists_of_of_eq hSeen
    obtain ⟨between, -, hAfter⟩ := hShares.split
    have hAnnotations : t.podAnnotations w.resource = some pod.metadata.annotations := by
      rw [Store.podAnnotations, hPod, Option.map_some]
    obtain hSame | ⟨q, created, answer, hMem, hName, hSame⟩ :=
      hAfter.podAnnotations_of_look hAnnotations
    · -- Then the pod that is deleted would not carry the options either.
      refine absurd ?_ hOther
      unfold Pod.Carries ObjectMeta.annotation? at hCarries ⊢
      rwa [hSame]
    · refine .overtaken rfl hOther ?_ hMem hName hSame
      rintro rfl
      exact absurd (hSince _ _ (Trace.mem_of.2 hMem)) (by simp [Request.createsPod])
  | cleaning =>
    obtain ⟨marked, hMarked, hSelects⟩ := hDeletes
    obtain rfl := Option.some.inj (hPod.symm.trans hMarked)
    exact .marked hSelects

/-! ### Launches that take turns -/

def takeTurns (w : Workspace) (launch : ι → Launch) (around : Surroundings) (s : Store)
    (turns : List ι) : Turns ι :=
  Store.takeTurns around turns (fun p => (launch p).inSingleCalls w) s

theorem areLaunched_takeTurns (w : Workspace) (launch : ι → Launch) (around : Surroundings) (s : Store)
    (turns : List ι) : AreLaunched w launch (takeTurns w launch around s turns).trace := by
  intro p
  have hLeft := s.runs_follow around ((takeTurns w launch around s turns).left p)
  exact ⟨_, _, runs_takeTurns turns (fun p => (launch p).inSingleCalls w) s hLeft⟩

/-- Whether launches may take these steps and come to this store, in which the next step of one of them
deletes the pod of the workspace while that carries the options. -/
def DeletesCurrentNext (w : Workspace) (launch : ι → Launch) (around : Surroundings) (s : Store)
    (before : Trace ι) (t : Store) (p : ι) : Prop :=
  ∃ (r : Request) (a : Result r.Answer) (pod : Pod),
    AreLaunched w launch (before ++ [(p, .call r a)]) ∧ Shares around s before t ∧
      t.Deletes w.resource r ∧ t.pod? w.resource = some pod ∧ pod.Carries w.options.manifest

/-- Whether a request deletes the pod of a workspace in some store, and that carries a snapshot of the
options. -/
def hitsCurrent (w : Workspace) (s : Store) (r : Request) : Bool :=
  (s.pod? w.resource).any fun pod =>
    pod.metadata.annotation? lastAppliedAnnotation == some w.options.manifest.snapshot &&
      match r with
      | .deletePod name => name == w.resource
      | .forceDeletePods selector => Store.selects selector pod
      | _ => false

theorem deletes_of_hitsCurrent (h : hitsCurrent w s r = true) : s.Deletes w.resource r ∧
    ∃ pod, s.pod? w.resource = some pod ∧ pod.Carries w.options.manifest := by
  obtain ⟨pod, hPod, hCurrent⟩ := (Option.any_eq_true _ _).1 h
  obtain ⟨hCarries, hDeletes⟩ := Bool.and_eq_true_iff.1 hCurrent
  refine ⟨?_, pod, hPod, _, beq_iff_eq.1 hCarries, ManifestOptions.ofSnapshot_snapshot _⟩
  cases r with
  | deletePod name => exact beq_iff_eq.1 hDeletes
  | forceDeletePods selector => exact ⟨pod, hPod, hDeletes⟩
  | _ => cases hDeletes

theorem deletesCurrentNext_of_turns {turns : List ι}
    (h : ((takeTurns w launch around s turns).store.advance around
      ((takeTurns w launch around s turns).left p)).1.any
        (·.asks (hitsCurrent w (takeTurns w launch around s turns).store)) = true) :
    DeletesCurrentNext w launch around s (takeTurns w launch around s turns).trace
      (takeTurns w launch around s turns).store p := by
  obtain ⟨step, hStep, hAsks⟩ := (Option.any_eq_true _ _).1 h
  cases step with
  | call r a =>
    obtain ⟨hDeletes, pod, hPod, hCarries⟩ := deletes_of_hitsCurrent hAsks
    refine ⟨r, a, pod, ?_, shares_takeTurns turns _ s, hDeletes, hPod, hCarries⟩
    have hLaunched := areLaunched_takeTurns w launch around s (turns ++ [p])
    rw [takeTurns, trace_takeTurns_concat] at hLaunched
    rw [takeTurns] at hStep
    rwa [hStep] at hLaunched
  | clock | sleep => cases hAsks

/-- Two launches in an empty cluster, of which one has not begun, and the other one has created its
pod and has seen that it has finished. -/
def finishing : Turns Bool :=
  takeTurns .notes (fun _ => .run (some .notes)) fleeting {} (List.replicate 14 true)

theorem deletesCurrentNext_finishing :
    DeletesCurrentNext .notes (fun _ => .run (some .notes)) fleeting {} finishing.trace finishing.store
      true :=
  deletesCurrentNext_of_turns (by decide +kernel)

theorem deletesCurrent_of_deletes_of_finishing : ∃ (r : Request) (a : Result r.Answer) (pod : Pod),
    AreLaunched .notes (fun _ => .run (some .notes)) (finishing.trace ++ [(true, .call r a)]) ∧
      Shares fleeting {} finishing.trace finishing.store ∧
      finishing.store.Deletes Workspace.notes.resource r ∧
      finishing.store.pod? Workspace.notes.resource = some pod ∧
      pod.Carries Workspace.notes.options.manifest ∧
      DeletesCurrent .notes true finishing.trace pod r := by
  obtain ⟨r, a, pod, hLaunched, hShares, hDeletes, hPod, hCarries⟩ := deletesCurrentNext_finishing
  exact ⟨r, a, pod, hLaunched, hShares, hDeletes, hPod, hCarries,
    deletesCurrent_of_deletes hLaunched hShares hDeletes hPod hCarries⟩

/-- A record of a workspace that says what a launch needs and nothing else. -/
def briefRecord : Json :=
  .ofMembers [("workspaceId", .ofText "notes"),
    ("spec", .ofMembers [("image", .ofText "debian"),
      ("workspaceMount", (Mount.volume "notes" "/notes").toJson)])]

/-- A cluster with that record and with a pod of the workspace that does not carry its options. -/
def outdated : Store where
  claims := (∅ : Dict VolumeClaim).insert Workspace.notes.resource
    { metadata := { annotations := some (.single infoAnnotation briefRecord.render) } }
  pods := Store.finished.pods

/-- Two launches with a pod that is out of date. When the first one has seen that, the second one
replaces the pod, and the first one goes on. -/
def rivals : Turns Bool :=
  takeTurns .notes (fun _ => .start) .trusted outdated
    (List.replicate 8 false ++ List.replicate 11 true ++ [false])

/-- The first of two launches deletes the pod that the second one has just created with the same
options, and a launch deletes the pod that it has created itself when that has finished. -/
theorem deletes_current_pod :
    DeletesCurrentNext .notes (fun _ => .start) .trusted outdated rivals.trace rivals.store false ∧
      DeletesCurrentNext .notes (fun _ => .run (some .notes)) fleeting {} finishing.trace finishing.store
        true :=
  ⟨deletesCurrentNext_of_turns (by decide +kernel), deletesCurrentNext_finishing⟩

end Launch

end PodWorkspace
