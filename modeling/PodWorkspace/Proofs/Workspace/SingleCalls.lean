import PodWorkspace.Cluster.Deletion
import PodWorkspace.Proofs.Program.Answering
import PodWorkspace.Proofs.Readiness.Recycling
import PodWorkspace.Proofs.Workspace.Handling

/-! A launch in single calls. All requests of a launch are calls but one: a pod that is deleted and
waited for is looked up, deleted, and looked up again, and other programs may have their calls in
between. Whenever a launch deletes a pod it has its grounds, by what it has seen before. -/

namespace PodWorkspace

open Cluster Program

/-! ### Single calls -/

namespace Cluster

section AsksOnly

variable {P : Request → Prop} {find : Action (Option Pod)} {delete : Action Unit} {name : String}

theorem asksOnly_cutOff {α : Type} : AsksOnly P (.cutOff : Action α) := by
  rintro steps ending ⟨⟩ r a hMem
  cases hMem

theorem asksOnly_awaitDeletion {uid : Option String} (hFind : AsksOnly P find) (lookups : Nat) :
    AsksOnly P (awaitDeletion find name uid lookups) := by
  induction lookups with
  | zero => exact asksOnly_cutOff
  | succ lookups ih =>
    refine hFind.andThen fun found => ?_
    cases found with
    | none => exact asksOnly_done ()
    | some pod =>
      dsimp only
      split
      · exact asksOnly_done ()
      · exact (asksOnly_note _).andThen fun _ => asksOnly_now.andThen fun _ =>
          (asksOnly_sleepUntil _).andThen fun _ => ih

theorem asksOnly_deletePodAndWait {timeout : Duration} (hFind : AsksOnly P find)
    (hDelete : AsksOnly P delete) : AsksOnly P (deletePodAndWait find delete name timeout) := by
  refine hFind.andThen fun found => ?_
  cases found with
  | none => exact asksOnly_done ()
  | some existing =>
    refine hDelete.andThen fun _ => asksOnly_now.andThen fun _ =>
      (asksOnly_awaitDeletion hFind _).within.orElseCut (asksOnly_now.andThen fun _ => ?_)
    split
    · exact asksOnly_fail _
    · exact asksOnly_cutOff

end AsksOnly

/-- A request in single calls. How long a pod gets to end does not matter for them. -/
def Request.inSingleCalls : (r : Request) → Action r.Answer
  | .deletePodAndWait name timeout =>
    Cluster.deletePodAndWait (ask (I := interface) (.getPod name))
      (ask (I := interface) (.deletePod name)) name timeout
  | r => ask (I := interface) r

variable {asked steps : List (Step interface)}

theorem Request.runs_inSingleCalls {r : Request} {ending : Result r.Answer}
    (h : r.deletesPodAndWaits = false) :
    Runs r.inSingleCalls steps ending ↔ steps = [.call r ending] := by
  cases r <;> first | exact runs_ask | cases h

def AreSingleCalls (steps : List (Step interface)) : Prop :=
  ∀ r a, .call r a ∈ steps → Request.deletesPodAndWaits r = false

theorem AreSingleCalls.eq_of_expands (hAsked : AreSingleCalls asked)
    (h : Expands Request.inSingleCalls asked steps) : steps = asked := by
  induction h with
  | nil => rfl
  | call hInner _ ih =>
    rw [(Request.runs_inSingleCalls (hAsked _ _ List.mem_cons_self)).1 hInner,
      ih fun r a hMem => hAsked r a (List.mem_cons_of_mem _ hMem), List.singleton_append]
  | clock _ ih | sleep _ ih =>
    rw [ih fun r a hMem => hAsked r a (List.mem_cons_of_mem _ hMem)]

/-- In single calls, a deletion that is waited for only looks for the pod and deletes it. -/
theorem mem_of_expands_deletePodAndWait {name : String} {timeout : Duration} {answer : Result Unit}
    (h : Runs (Request.deletePodAndWait name timeout).inSingleCalls steps answer) {r : Request}
    {a : Result r.Answer} (hMem : .call r a ∈ steps) : r = .getPod name ∨ r = .deletePod name :=
  asksOnly_deletePodAndWait (P := fun r => r = .getPod name ∨ r = .deletePod name)
    (asksOnly_ask (I := interface) (.inl rfl)) (asksOnly_ask (I := interface) (.inr rfl)) h r a hMem

end Cluster

/-! ### Grounds -/

namespace Workspace

variable {w : Workspace} {steps before after : List (Step interface)} {r : Request}

/-- Why a launch deletes pods, by the steps that it has taken before. -/
inductive Grounds (w : Workspace) : Request → List (Step interface) → Prop
  /-- It has just seen the pod of the workspace, and that it has finished. -/
  | finished {lead : List (Step interface)} {pod : Option Pod} {container : String}
      (hTick : Readiness.tick pod w.options.completedPodPolicy = .recycle container) :
      Grounds w (.deletePod w.resource) (lead ++ [.call (.getPod w.resource) (some (.ok pod))])
  /-- It has seen a pod that does not carry the options, and has created none since. -/
  | outdated {lead since : List (Step interface)} {shown : Pod}
      (hOther : ¬shown.Carries w.options.manifest)
      (hSince : ∀ r a, .call r a ∈ since → Request.createsPod r = false) :
      Grounds w (.deletePod w.resource)
        (lead ++ .call (.getPod w.resource) (some (.ok (some shown))) :: since)
  /-- It removes the detection pods. -/
  | cleaning {lead : List (Step interface)} :
      Grounds w (.forceDeletePods w.name.detectionSelector) lead

/-- Whether each deletion of pods has its grounds. -/
def IsGrounded (w : Workspace) (steps : List (Step interface)) : Prop :=
  ∀ before r a after, steps = before ++ .call r a :: after → Request.deletesPods r = true →
    w.Grounds r before

theorem Grounds.prepend (h : w.Grounds r after) (before : List (Step interface)) :
    w.Grounds r (before ++ after) := by
  cases h with
  | finished hTick =>
    rw [← List.append_assoc]
    exact .finished hTick
  | outdated hOther hSince =>
    rw [← List.append_assoc]
    exact .outdated hOther hSince
  | cleaning => exact .cleaning

namespace IsGrounded

theorem of_quiet (h : ∀ r a, .call r a ∈ steps → Request.deletesPods r = false) :
    w.IsGrounded steps := by
  rintro before r a after rfl hDeletes
  have hQuiet := h r a (by simp)
  rw [hDeletes] at hQuiet
  cases hQuiet

theorem append (hBefore : w.IsGrounded before) (hAfter : w.IsGrounded after) :
    w.IsGrounded (before ++ after) := by
  intro lead r a rest hSteps hDeletes
  obtain ⟨inner, rfl, hInner⟩ | ⟨inner, hWhole, hInner⟩ := List.append_eq_append_iff.1 hSteps
  · exact (hAfter inner r a rest hInner hDeletes).prepend before
  · cases inner with
    | nil =>
      rw [List.append_nil] at hWhole
      subst hWhole
      simpa using (hAfter [] r a rest hInner.symm hDeletes).prepend before
    | cons step inner =>
      obtain ⟨rfl, -⟩ := List.cons.inj hInner
      exact hBefore lead r a inner hWhole hDeletes

end IsGrounded

/-- Whether a program deletes pods on its grounds only, whatever is answered. -/
def ActsOnGrounds {α : Type} (w : Workspace) (x : Action α) : Prop :=
  ∀ ⦃steps ending⦄, Runs x steps ending → w.IsGrounded steps

section ActsOnGrounds

variable {α β : Type} {x : Action α} {next : α → Action β}

theorem actsOnGrounds_of_quiet (h : AsksOnly (fun r : Request => r.deletesPods = false) x) :
    w.ActsOnGrounds x :=
  fun _ _ hRun => .of_quiet (h hRun)

theorem ActsOnGrounds.andThen (h : w.ActsOnGrounds x) (hNext : ∀ a, w.ActsOnGrounds (next a)) :
    w.ActsOnGrounds (andThen next x) := by
  intro steps ending hRun
  obtain ⟨before, r, after, rfl, hBefore, hAfter⟩ := runs_andThen.1 hRun
  refine (h hBefore).append ?_
  rcases r with _ | (f | a)
  · exact .of_quiet (asksOnly_cutOff hAfter)
  · exact .of_quiet (asksOnly_fail f hAfter)
  · exact hNext a hAfter

theorem changesObjects_of_deletesPods (h : r.deletesPods = true) : r.changesObjects = true := by
  cases r <;> first | rfl | cases h

/-- A wait deletes the pod when it has just seen that it has finished. -/
theorem actsOnGrounds_waitFor : w.ActsOnGrounds (w.waitFor w.resource) := by
  intro steps ending h before r a after hSteps hDeletes
  obtain ⟨rfl, lead, pod, container, rfl, hTick⟩ :=
    (Readiness.onlyRecycles_wait h).follows_look hSteps (changesObjects_of_deletesPods hDeletes)
  exact .finished hTick

theorem actsOnGrounds_removeDetection {detection : List String} :
    w.ActsOnGrounds (w.removeDetection detection) := by
  rintro _ ending h before r a after rfl -
  obtain rfl := asksOnly_removeDetection h r a (by simp)
  exact .cleaning

theorem actsOnGrounds_createPod {pod : Pod} {detection : List String} :
    w.ActsOnGrounds (w.createPod pod detection) :=
  (actsOnGrounds_of_quiet (asksOnly_tell _ _ _)).andThen fun _ =>
    (actsOnGrounds_of_quiet (asksOnly_request rfl)).andThen fun _ =>
      (actsOnGrounds_of_quiet (asksOnly_tell _ _ _)).andThen fun _ =>
        actsOnGrounds_waitFor.andThen fun result =>
          (actsOnGrounds_of_quiet (asksOnly_tellEnd result)).andThen fun _ =>
            actsOnGrounds_removeDetection

end ActsOnGrounds

theorem areSingleCalls_createPod {pod : Pod} {detection : List String} {ending : Result Unit}
    (h : Runs (w.createPod pod detection) steps ending) : AreSingleCalls steps := by
  obtain ⟨answer, rest, rfl, hRest⟩ := runs_createPod h
  intro r a hMem
  obtain hHead | hMem := List.mem_cons.1 hMem
  · cases hHead
    rfl
  · obtain (rfl | rfl) | rfl := hRest r a hMem <;> rfl

/-- A pod that does not carry the options is deleted on the grounds of the look at it. -/
theorem isGrounded_of_outdated {shown : Pod} (hOther : ¬shown.Carries w.options.manifest)
    (h : ∀ r a, .call r a ∈ steps → r = Request.getPod w.resource ∨ r = .deletePod w.resource) :
    w.IsGrounded (.call (.getPod w.resource) (some (.ok (some shown))) :: steps) := by
  intro before r a after hSteps hDeletes
  obtain ⟨since, rfl, rfl⟩ := split_of_ne hSteps fun hLook => by
    cases hLook
    cases hDeletes
  obtain rfl | rfl := h r a (by simp)
  · cases hDeletes
  · refine @Grounds.outdated w [] _ _ hOther fun r' a' hMem => ?_
    obtain rfl | rfl := h r' a' (List.mem_append_left _ hMem) <;> rfl

/-- In single calls, too, a pod is replaced on these grounds only. -/
theorem Replaces.isGrounded {pod : Pod} {detection : List String} {asked : List (Step interface)}
    {ending : Result Unit} (h : w.Replaces pod detection asked ending)
    (hExpands : Expands Request.inSingleCalls asked steps) : w.IsGrounded steps := by
  have hLooks {found : Result (Option Pod)} :
      w.IsGrounded [.call (.getPod w.resource) found] :=
    .of_quiet fun r a hMem => by
      cases List.mem_singleton.1 hMem
      rfl
  obtain ⟨found, more, rfl⟩ : ∃ found more, asked = .call (.getPod w.resource) found :: more := by
    cases h <;> exact ⟨_, _, rfl⟩
  obtain ⟨looking, rest, rfl, hLook, hRest⟩ := hExpands.of_call
  obtain rfl := (Request.runs_inSingleCalls rfl).1 hLook
  cases h with
  | unseen | current =>
    cases hRest
    exact hLooks
  | absent hCreate =>
    obtain rfl := (areSingleCalls_createPod hCreate).eq_of_expands hRest
    exact hLooks.append (actsOnGrounds_createPod hCreate)
  | undeleted hCarries _ _ =>
    obtain ⟨deleting, _, rfl, hDelete, ⟨⟩⟩ := hRest.of_call
    refine isGrounded_of_outdated hCarries fun r a hMem => ?_
    exact mem_of_expands_deletePodAndWait hDelete (by simpa using hMem)
  | replaced hCarries hCreate =>
    obtain ⟨deleting, creating, rfl, hDelete, hCreating⟩ := hRest.of_call
    obtain rfl := (areSingleCalls_createPod hCreate).eq_of_expands hCreating
    have hOutdated := isGrounded_of_outdated hCarries fun r a hMem =>
      mem_of_expands_deletePodAndWait hDelete hMem
    exact hOutdated.append (actsOnGrounds_createPod hCreate)

end Workspace

namespace Launch

variable {w : Workspace} {l : Launch} {steps : List (Step interface)} {ending : Result Unit}

def inSingleCalls (l : Launch) (w : Workspace) : Action Unit :=
  (l.program w).answeredBy Request.inSingleCalls

/-- A launch deletes pods on these grounds only. -/
theorem isGrounded (h : Runs (l.inSingleCalls w) steps ending) : w.IsGrounded steps := by
  obtain ⟨asked, hRun, hExpands⟩ := runs_answeredBy.1 h
  have hEarly {asked steps : List (Step interface)} (hPreliminary : Workspace.IsPreliminary asked)
      (hExpands : Expands Request.inSingleCalls asked steps) : w.IsGrounded steps := by
    have hSingle : AreSingleCalls asked := fun r a hMem => by
      by_contra hWaits
      exact hPreliminary r a hMem (Request.stage_of_deletesPodAndWaits (by simpa using hWaits))
    obtain rfl := hSingle.eq_of_expands hExpands
    refine .of_quiet fun r a hMem => ?_
    by_contra hDeletes
    exact hPreliminary r a hMem (Request.stage_of_deletesPods (by simpa using hDeletes))
  obtain ⟨hPreliminary, -⟩ | ⟨opening, preparing, handling, plan, placement, detection, pod, rfl,
    hBuilds, hReplace⟩ := runs_program hRun
  · exact hEarly hPreliminary hExpands
  · obtain ⟨before, after, rfl, hBefore, hAfter⟩ := hExpands.of_append
    exact (hEarly hBuilds.isPreliminary hBefore).append
      ((Workspace.replaces_of_runs hReplace).isGrounded hAfter)

end Launch

end PodWorkspace
