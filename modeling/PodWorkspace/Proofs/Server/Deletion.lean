import PodWorkspace.Proofs.Server.Exchange

/-! What it takes to delete a pod and wait until it is gone, on a server that answers as it likes and
takes its time. The pod is looked up first, and deleted once when it is found. From then on it is looked
up about once a second, until a lookup settles the matter or the time is over. So there are no more
lookups than the seconds that are waited, and a few more. -/

namespace PodWorkspace.Server

open Cluster Program

variable {ns name : String} {uid : Option String} {now ended limit timeout : Duration}
  {steps : List (Step interface)}

/-! ### Lookups and deletions -/

def lookMessage (ns name : String) : Message :=
  ⟨.get, .ofPath s!"{Collection.pods.path ns}/{name}", none⟩

/-- The pod gets the grace that it has of its own. -/
def deletionMessage (ns name : String) : Message :=
  ⟨.delete, .withQuery s!"{Collection.pods.path ns}/{name}" [], some (deleteOptions none)⟩

/-- Whether a pod can be asked for by its name. -/
def IsUsable (ns name : String) : Prop :=
  name.isEmpty = false ∧ (lookMessage ns name).address.isWritable = true

def foundBy (name : String) : Except ServerFault Pod → Except Failure (Option Pod)
  | .ok pod => .ok (some pod)
  | .error fault => if lacksObject fault then .ok none else .error (.ofServer s!"get pod {name}" fault)

/-- What a deletion comes to. A pod that is not there counts as deleted. -/
def deletedBy (name : String) : Except ServerFault Unit → Except Failure Unit
  | .ok _ => .ok ()
  | .error fault => if hasCode 404 fault then .ok () else .error (.ofServer s!"delete pod {name}" fault)

/-- What a reply says about a pod. -/
def podIn (name : String) (reply : Except ServerFault Reply) : Except Failure (Option Pod) :=
  foundBy name (reply >>= Reply.object Pod.ofDocument?)

def deletionIn (name : String) (reply : Except ServerFault Reply) : Except Failure Unit :=
  deletedBy name (reply >>= Reply.deleted Pod.ofDocument?)

def lookStep (ns name : String) (answer : Result (Except ServerFault Reply)) : Step interface :=
  .call (.exchange (lookMessage ns name)) answer

def deletionStep (ns name : String) (answer : Result (Except ServerFault Reply)) : Step interface :=
  .call (.exchange (deletionMessage ns name)) answer

theorem findPod_eq (hName : name.isEmpty = false) : findPod ns name =
    andThen (fun x => .ofExcept (foundBy name x))
      (exchange (lookMessage ns name) (Reply.object Pod.ofDocument?)) := by
  rw [findPod, find, hName]
  refine congrArg (andThen · _) (funext fun x => ?_)
  unfold foundBy
  cases x with
  | ok pod => rfl
  | error fault =>
    dsimp only
    split <;> rfl

theorem runs_findPod {ending : Result (Option Pod)} (hUsable : IsUsable ns name) :
    Runs (findPod ns name) steps ending ↔
      ∃ answer, steps = [lookStep ns name answer] ∧ ending = answer.map (· >>= podIn name) := by
  rw [findPod_eq hUsable.1]
  exact runs_exchange_andThen hUsable.2 fun _ _ _ => runs_ofExcept

theorem runs_findPod_of_not_usable {ending : Result (Option Pod)} (hUsable : ¬IsUsable ns name)
    (h : Runs (findPod ns name) steps ending) :
    steps = [] ∧ ∃ fault, ending = some (.error (.ofServer s!"get pod {name}" fault)) := by
  cases hName : name.isEmpty with
  | true =>
    rw [findPod, find, hName] at h
    obtain ⟨rfl, rfl⟩ := runs_fail.1 h
    exact ⟨rfl, _, rfl⟩
  | false =>
    have hAddress : (lookMessage ns name).address.isWritable = false := by
      simpa [IsUsable, hName] using hUsable
    rw [findPod_eq hName] at h
    obtain ⟨rfl, rfl⟩ :=
      (runs_exchange_andThen_of_not_isWritable hAddress fun _ _ _ => runs_ofExcept).1 h
    exact ⟨rfl, _, rfl⟩

def deletePod (ns name : String) : Talk Unit := delete ns .pods Pod.ofDocument? name none

theorem deletePod_eq (ns name : String) : ∃ next : Except ServerFault Unit → Talk Unit,
    deletePod ns name =
      andThen next (exchange (deletionMessage ns name) (Reply.deleted Pod.ofDocument?)) ∧
    (∀ x, AlwaysEnds (next x)) ∧
    ∀ x steps ending, Runs (next x) steps ending ↔ steps = [] ∧ ending = some (deletedBy name x) := by
  refine ⟨_, rfl, fun x => ?_, fun x steps ending => ?_⟩
  · cases x with
    | ok _ => exact alwaysEnds_done ()
    | error fault =>
      dsimp only
      split
      · exact alwaysEnds_log (alwaysEnds_done ()) _
      · exact alwaysEnds_fail _
  · cases x with
    | ok _ => exact runs_done
    | error fault =>
      dsimp only [deletedBy]
      split
      · exact runs_note
      · exact runs_fail

theorem runs_deletePod {ending : Result Unit}
    (h : (deletionMessage ns name).address.isWritable = true) :
    Runs (deletePod ns name) steps ending ↔
      ∃ answer, steps = [deletionStep ns name answer] ∧ ending = answer.map (· >>= deletionIn name) := by
  obtain ⟨next, hDelete, -, hNext⟩ := deletePod_eq ns name
  rw [hDelete]
  exact runs_exchange_andThen h hNext

theorem runs_deletePod_of_not_isWritable {ending : Result Unit}
    (h : (deletionMessage ns name).address.isWritable = false) :
    Runs (deletePod ns name) steps ending ↔
      steps = [] ∧ ending = some (.error (.ofServer s!"delete pod {name}" .unwritable)) := by
  obtain ⟨next, hDelete, -, hNext⟩ := deletePod_eq ns name
  rw [hDelete]
  exact runs_exchange_andThen_of_not_isWritable h hNext

theorem alwaysEnds_ofExcept {α : Type} (x : Except Failure α) : AlwaysEnds (.ofExcept x : Talk α) := by
  cases x with
  | ok a => exact alwaysEnds_done a
  | error f => exact alwaysEnds_fail f

theorem alwaysEnds_findPod (ns name : String) : AlwaysEnds (findPod ns name) := by
  cases hName : name.isEmpty with
  | true =>
    rw [findPod, find, hName]
    exact alwaysEnds_fail _
  | false =>
    rw [findPod_eq hName]
    exact alwaysEnds_exchange.andThen fun _ => alwaysEnds_ofExcept _

theorem alwaysEnds_deletePod (ns name : String) : AlwaysEnds (deletePod ns name) := by
  obtain ⟨next, hDelete, hEnds, -⟩ := deletePod_eq ns name
  rw [hDelete]
  exact alwaysEnds_exchange.andThen hEnds

/-! ### Waiting for the pod to be gone -/

/-- How a wait for a deletion ends with a lookup, if it does. A pod of the same name with another uid is
a new one. -/
def verdict (uid : Option String) : Except Failure (Option Pod) → Option (Except Failure Unit)
  | .error f => some (.error f)
  | .ok none => some (.ok ())
  | .ok (some pod) => if pod.metadata.uid = uid then none else some (.ok ())

theorem verdict_eq_none_iff {found : Except Failure (Option Pod)} : verdict uid found = none ↔
    ∃ pod, found = .ok (some pod) ∧ pod.metadata.uid = uid := by
  rcases found with f | _ | pod
  · simp [verdict]
  · simp [verdict]
  · simp [verdict]

theorem verdict_eq_ok_iff {found : Except Failure (Option Pod)} : verdict uid found = some (.ok ()) ↔
    ∃ last, found = .ok last ∧ ∀ other, last = some other → other.metadata.uid ≠ uid := by
  rcases found with f | _ | pod
  · simp [verdict]
  · simp [verdict]
  · simp [verdict]

/-- A wait for a deletion: its steps, how it ends, unless it is cut off, and when. -/
inductive Polls (ns name : String) (uid : Option String) (limit : Duration) :
    Duration → List (Step interface) → Result Unit → Duration → Prop
  | late {now : Duration} (hLate : limit ≤ now) : Polls ns name uid limit now [] none now
  | cutOff {now ended : Duration} (hNow : now ≤ ended) (hLate : limit ≤ ended) :
      Polls ns name uid limit now [lookStep ns name none] none ended
  | decided {now ended : Duration} {answer : Except Failure (Except ServerFault Reply)}
      {outcome : Except Failure Unit} (hNow : now ≤ ended)
      (hVerdict : verdict uid (answer >>= podIn name) = some outcome) :
      Polls ns name uid limit now [lookStep ns name (some answer)] (some outcome) ended
  | asleep {now between ended : Duration} {answer : Except Failure (Except ServerFault Reply)}
      (hNow : now ≤ between) (hVerdict : verdict uid (answer >>= podIn name) = none)
      (hLate : limit ≤ ended) :
      Polls ns name uid limit now [lookStep ns name (some answer), .clock between,
        .sleep (between + deletionPollInterval) false] none ended
  | again {now between later ended : Duration} {answer : Except Failure (Except ServerFault Reply)}
      {rest : List (Step interface)} {ending : Result Unit} (hNow : now ≤ between)
      (hVerdict : verdict uid (answer >>= podIn name) = none) (hInTime : between ≤ limit)
      (hLater : between + deletionPollInterval ≤ later)
      (hRest : Polls ns name uid limit later rest ending ended) :
      Polls ns name uid limit now (lookStep ns name (some answer) :: .clock between ::
        .sleep (between + deletionPollInterval) true :: rest) ending ended

/-- What is done between two lookups, and then the rest. -/
def pause (name : String) (rest : Talk Unit) : Talk Unit := do
  .note ⟨.trace, "Waiting for pod deletion", [("pod", name)]⟩
  .sleepUntil ((← .now) + deletionPollInterval)
  rest

theorem awaitDeletion_succ (find : Talk (Option Pod)) (name : String) (uid : Option String)
    (lookups : Nat) : awaitDeletion find name uid (lookups + 1) = andThen (fun found =>
      (verdict uid (.ok found)).elim (pause name (awaitDeletion find name uid lookups)) .ofExcept) find := by
  rw [awaitDeletion, bind_eq_andThen]
  refine congrArg (andThen · find) (funext fun found => ?_)
  cases found with
  | none => rfl
  | some pod =>
    by_cases hSame : pod.metadata.uid = uid
    · simp [verdict, hSame, pause]
    · simp only [verdict, ne_eq, hSame, not_false_eq_true, if_true, if_false]
      rfl

/-- A wait goes on after a lookup as the verdict on that says. -/
theorem resume_verdict (limit : Duration) (uid : Option String) (rest : Talk Unit)
    (found : Except Failure (Option Pod)) :
    resume (fun pod => within limit ((verdict uid (.ok pod)).elim rest .ofExcept)) (some found) =
      (verdict uid found).elim (within limit rest) .ofExcept := by
  cases found with
  | error f => rfl
  | ok pod =>
    rw [resume_ok]
    rcases verdict uid (.ok pod) with _ | (f | _) <;> rfl

theorem pause_not_le (now : Duration) : ¬now + deletionPollInterval ≤ now := by
  show ¬now.nanos + 1 * 1000000000 ≤ now.nanos
  omega

/-- A pause that begins in time is as long as it should be, unless the deadline comes. -/
theorem passes_pause {rest : Talk Unit} {ending : Result Unit}
    (h : Passes now (within limit (pause name rest)) steps ending ended) :
    (steps = [.clock now, .sleep (now + deletionPollInterval) false] ∧ ending = none ∧
      limit ≤ ended) ∨
    ∃ later after, steps = .clock now :: .sleep (now + deletionPollInterval) true :: after ∧
      now ≤ limit ∧ now + deletionPollInterval ≤ later ∧
      Passes later (within limit rest) after ending ended := by
  cases h with
  | log h =>
    cases h with
    | clock h =>
      cases h with
      | sleep slept hNow hSlept hCut hRest =>
        cases slept with
        | false =>
          obtain ⟨_, ⟨⟩, hLate⟩ := hCut rfl
          cases hRest
          exact .inl ⟨rfl, rfl, hLate⟩
        | true =>
          obtain ⟨hTill, hDeadline⟩ := hSlept rfl
          exact .inr ⟨_, _, rfl, (hDeadline limit rfl).resolve_right (pause_not_le now), hTill, hRest⟩

/-- With a lookup for each second until the deadline, it is the deadline that ends a wait. -/
theorem polls_of_passes {lookups : Nat} {ending : Result Unit} (hUsable : IsUsable ns name)
    (h : Passes now (within limit (awaitDeletion (findPod ns name) name uid lookups)) steps ending ended)
    (hEnough : limit ≤ now + .ofSeconds lookups) : Polls ns name uid limit now steps ending ended := by
  -- On the lookups that are left: each pause takes a second off the time to the deadline.
  induction lookups generalizing now steps with
  | zero =>
    cases h
    exact .late hEnough
  | succ lookups ih =>
    rw [awaitDeletion_succ, within_andThen] at h
    obtain ⟨before, r, between, after, rfl, hLook, hRest⟩ := h.of_andThen
    obtain ⟨answer, rfl, rfl⟩ := (runs_findPod hUsable).1 (runs_within.1 hLook.runs)
    cases answer with
    | none =>
      cases hRest
      exact .cutOff hLook.le (hLook.limit_le ⟨_, List.mem_singleton_self _, rfl⟩)
    | some answer =>
      rw [Option.map_some, resume_verdict] at hRest
      cases hVerdict : verdict uid (answer >>= podIn name) with
      | some outcome =>
        rw [hVerdict, Option.elim_some] at hRest
        obtain ⟨rfl, rfl⟩ := runs_ofExcept.1 hRest.runs
        exact .decided (Duration.le_trans hLook.le hRest.le) hVerdict
      | none =>
        rw [hVerdict, Option.elim_none] at hRest
        obtain ⟨rfl, rfl, hLate⟩ | ⟨later, rest, rfl, hInTime, hLater, hNext⟩ := passes_pause hRest
        · exact .asleep hLook.le hVerdict hLate
        · refine .again hLook.le hVerdict hInTime hLater (ih hNext ?_)
          have hBetween : now.nanos ≤ between.nanos := hLook.le
          have hPause : between.nanos + 1 * 1000000000 ≤ later.nanos := hLater
          have hBefore : limit.nanos ≤ now.nanos + (lookups + 1) * 1000000000 := hEnough
          show limit.nanos ≤ later.nanos + lookups * 1000000000
          omega

/-- What follows on a pause may be replaced by what has the same runs from the end of the pause on, if
that begins in time. -/
theorem passes_pause_of_imp {rest rest' : Talk Unit} {ending : Result Unit}
    (h : Passes now (within limit (pause name rest)) steps ending ended)
    (hRest : ∀ ⦃later after⦄, now ≤ limit → now + deletionPollInterval ≤ later →
      Passes later (within limit rest) after ending ended →
        Passes later (within limit rest') after ending ended) :
    Passes now (within limit (pause name rest')) steps ending ended := by
  cases h with
  | log h =>
    cases h with
    | clock h =>
      cases h with
      | sleep slept hNow hSlept hCut hAfter =>
        refine .log (.clock (.sleep slept hNow hSlept hCut ?_))
        cases slept with
        | false => exact hAfter
        | true =>
          obtain ⟨hTill, hDeadline⟩ := hSlept rfl
          exact hRest ((hDeadline limit rfl).resolve_right (pause_not_le now)) hTill hAfter

/-- In the same way what follows on the first lookup of a wait may be replaced. -/
theorem passes_awaitDeletion_of_imp {find : Talk (Option Pod)} {lookups others : Nat}
    {ending : Result Unit}
    (h : Passes now (within limit (awaitDeletion find name uid (lookups + 1))) steps ending ended)
    (hRest : ∀ ⦃later after⦄, now ≤ limit → now + deletionPollInterval ≤ later →
      Passes later (within limit (awaitDeletion find name uid lookups)) after ending ended →
        Passes later (within limit (awaitDeletion find name uid others)) after ending ended) :
    Passes now (within limit (awaitDeletion find name uid (others + 1))) steps ending ended := by
  rw [awaitDeletion_succ, within_andThen] at h ⊢
  refine h.andThen_of_imp fun before found between hLook after hAfter => ?_
  cases hVerdict : verdict uid (.ok found) with
  | some outcome =>
    rw [hVerdict] at hAfter
    exact hAfter
  | none =>
    rw [hVerdict] at hAfter
    refine passes_pause_of_imp hAfter fun later rest hInTime hLater => hRest ?_ ?_
    · exact Duration.le_trans hLook.le hInTime
    · have hNow : now.nanos ≤ between.nanos := hLook.le
      have hPause : between.nanos + 1 * 1000000000 ≤ later.nanos := hLater
      show now.nanos + 1 * 1000000000 ≤ later.nanos
      omega

/-- The lookups of a wait are not used up before its deadline: with any two numbers of them that reach
beyond it the wait has the same runs. -/
theorem passes_awaitDeletion_of_lt {find : Talk (Option Pod)} {lookups others : Nat}
    {ending : Result Unit}
    (h : Passes now (within limit (awaitDeletion find name uid (lookups + 1))) steps ending ended)
    (hEnough : limit < now + .ofSeconds lookups) (hOthers : limit < now + .ofSeconds others) :
    Passes now (within limit (awaitDeletion find name uid (others + 1))) steps ending ended := by
  -- On the lookups that are left after this one: a second lookup in time leaves one for each second.
  induction lookups generalizing others now steps with
  | zero =>
    refine passes_awaitDeletion_of_imp h fun later after hInTime => ?_
    have hLate : limit.nanos < now.nanos + 0 * 1000000000 := hEnough
    have hEarly : now.nanos ≤ limit.nanos := hInTime
    omega
  | succ lookups ih =>
    refine passes_awaitDeletion_of_imp h fun later after hInTime hLater hRest => ?_
    have hEarly : now.nanos ≤ limit.nanos := hInTime
    have hPause : now.nanos + 1 * 1000000000 ≤ later.nanos := hLater
    have hLeft : limit.nanos < now.nanos + (lookups + 1) * 1000000000 := hEnough
    have hOthersLeft : limit.nanos < now.nanos + others * 1000000000 := hOthers
    obtain ⟨others, rfl⟩ : ∃ n, others = n + 1 := ⟨others - 1, by omega⟩
    refine ih hRest ?_ ?_
    · show limit.nanos < later.nanos + lookups * 1000000000
      omega
    · show limit.nanos < later.nanos + others * 1000000000
      omega

/-- The lookups of a deletion that is waited for are enough: it has the same runs with any larger number
of them. -/
theorem passes_awaitDeletion_iff {find : Talk (Option Pod)} {lookups : Nat} {ending : Result Unit}
    (hEnough : timeout.secondsUp + 2 ≤ lookups) :
    Passes now (within (now + timeout) (awaitDeletion find name uid lookups)) steps ending ended ↔
      Passes now (within (now + timeout) (awaitDeletion find name uid (timeout.secondsUp + 2))) steps
        ending ended := by
  have hBeyond {n : Nat} (hMore : timeout.secondsUp + 1 ≤ n) :
      now + timeout < now + .ofSeconds n := by
    have hSeconds : (timeout.nanos + 999999999) / 1000000000 + 1 ≤ n := hMore
    show now.nanos + timeout.nanos < now.nanos + n * 1000000000
    omega
  obtain ⟨others, rfl⟩ : ∃ n, lookups = n + 1 := ⟨lookups - 1, by omega⟩
  have hOthers : timeout.secondsUp + 1 ≤ others := by omega
  exact ⟨fun h => passes_awaitDeletion_of_lt h (hBeyond hOthers) (hBeyond (Nat.le_refl _)),
    fun h => passes_awaitDeletion_of_lt h (hBeyond (Nat.le_refl _)) (hBeyond hOthers)⟩

/-! ### Whole deletions -/

/-- A deletion that is waited for: its steps and how it ends. -/
inductive Deletes (ns name : String) (timeout : Duration) :
    List (Step interface) → Except Failure Unit → Prop
  | unsent (fault : ServerFault) :
      Deletes ns name timeout [] (.error (.ofServer s!"get pod {name}" fault))
  | lookFailed {look : Except Failure (Except ServerFault Reply)} {f : Failure}
      (hLook : look >>= podIn name = .error f) :
      Deletes ns name timeout [lookStep ns name (some look)] (.error f)
  | absent {look : Except Failure (Except ServerFault Reply)} (hLook : look >>= podIn name = .ok none) :
      Deletes ns name timeout [lookStep ns name (some look)] (.ok ())
  /-- The address of the deletion is too long by one character. -/
  | unwritable {look : Except Failure (Except ServerFault Reply)} {pod : Pod}
      (hLook : look >>= podIn name = .ok (some pod))
      (hAddress : (deletionMessage ns name).address.isWritable = false) :
      Deletes ns name timeout [lookStep ns name (some look)]
        (.error (.ofServer s!"delete pod {name}" .unwritable))
  | deletionFailed {look deletion : Except Failure (Except ServerFault Reply)} {pod : Pod} {f : Failure}
      (hLook : look >>= podIn name = .ok (some pod))
      (hAddress : (deletionMessage ns name).address.isWritable = true)
      (hDeletion : deletion >>= deletionIn name = .error f) :
      Deletes ns name timeout
        [lookStep ns name (some look), deletionStep ns name (some deletion)] (.error f)
  | decided {look deletion : Except Failure (Except ServerFault Reply)} {pod : Pod}
      {started ended : Duration} {polled : List (Step interface)} {outcome : Except Failure Unit}
      (hLook : look >>= podIn name = .ok (some pod))
      (hAddress : (deletionMessage ns name).address.isWritable = true)
      (hDeletion : deletion >>= deletionIn name = .ok ())
      (hPolls : Polls ns name pod.metadata.uid (started + timeout) started polled (some outcome) ended) :
      Deletes ns name timeout (lookStep ns name (some look) :: deletionStep ns name (some deletion) ::
        .clock started :: polled) outcome
  | late {look deletion : Except Failure (Except ServerFault Reply)} {pod : Pod}
      {started ended : Duration} {polled : List (Step interface)}
      (hLook : look >>= podIn name = .ok (some pod))
      (hAddress : (deletionMessage ns name).address.isWritable = true)
      (hDeletion : deletion >>= deletionIn name = .ok ())
      (hPolls : Polls ns name pod.metadata.uid (started + timeout) started polled none ended) :
      Deletes ns name timeout (lookStep ns name (some look) :: deletionStep ns name (some deletion) ::
        .clock started :: (polled ++ [.clock ended])) (.error (stillPresent name timeout))

theorem Polls.limit_le (h : Polls ns name uid limit now steps none ended) : limit ≤ ended := by
  generalize hEnding : (none : Result Unit) = ending at h
  induction h with
  | late hLate | cutOff _ hLate | asleep _ _ hLate => exact hLate
  | decided => cases hEnding
  | again _ _ _ _ _ ih => exact ih hEnding

/-- How a wait ends that was cut off. -/
def tooLate (name : String) (timeout deadline : Duration) : Talk Unit := do
  if deadline ≤ (← .now) then .fail (stillPresent name timeout) else .cutOff

/-- Does `x` until the time is over. -/
def inTime (name : String) (timeout : Duration) (x : Talk Unit) : Talk Unit := do
  let deadline := (← .now) + timeout
  .orElseCut (tooLate name timeout deadline) (.within deadline x)

theorem passes_tooLate {ending : Result Unit} (hLate : limit ≤ now)
    (h : Passes now (tooLate name timeout limit) steps ending ended) :
    steps = [.clock now] ∧ ending = some (.error (stillPresent name timeout)) := by
  cases h with
  | clock h =>
    simp only [done_andThen, if_pos hLate] at h
    cases h
    exact ⟨rfl, rfl⟩

theorem passes_inTime {x : Talk Unit} {ending : Result Unit}
    (h : Passes now (inTime name timeout x) steps ending ended) :
    ∃ polled r later, Passes now (within (now + timeout) x) polled r later ∧
      ((∃ outcome, r = some outcome ∧ ending = some outcome ∧ steps = .clock now :: polled) ∨
        (r = none ∧ (now + timeout ≤ later → steps = .clock now :: (polled ++ [.clock later]) ∧
          ending = some (.error (stillPresent name timeout))))) := by
  unfold inTime at h
  cases h with
  | clock h =>
    have h : Passes now (orElseCut (tooLate name timeout (now + timeout)) (within (now + timeout) x)) _
      ending ended := h
    rw [orElseCut_eq_onEnding] at h
    obtain ⟨polled, r, later, after, rfl, hPolls, hRest⟩ := h.of_onEnding
    refine ⟨polled, r, later, hPolls, ?_⟩
    cases r with
    | some outcome =>
      obtain ⟨rfl, rfl⟩ := runs_ofExcept.1 hRest.runs
      exact .inl ⟨outcome, rfl, rfl, by rw [List.append_nil]⟩
    | none =>
      refine .inr ⟨rfl, fun hLate => ?_⟩
      obtain ⟨rfl, rfl⟩ := passes_tooLate hLate hRest
      exact ⟨rfl, rfl⟩

/-- What is done once the pod was found. -/
def deleteFound (ns name : String) (timeout : Duration) (pod : Pod) : Talk Unit := do
  deletePod ns name
  inTime name timeout
    (awaitDeletion (findPod ns name) name pod.metadata.uid (timeout.secondsUp + 2))

/-- After a pod was found, it is deleted and waited for. -/
theorem deletes_of_deleteFound {look : Except Failure (Except ServerFault Reply)} {pod : Pod}
    {ending : Result Unit} (hUsable : IsUsable ns name) (hLook : look >>= podIn name = .ok (some pod))
    (h : Passes now (deleteFound ns name timeout pod) steps ending ended) :
    ∃ outcome, ending = some outcome ∧
      Deletes ns name timeout (lookStep ns name (some look) :: steps) outcome := by
  obtain ⟨before, r, between, after, rfl, hDelete, hRest⟩ := h.of_andThen
  cases hAddress : (deletionMessage ns name).address.isWritable with
  | false =>
    obtain ⟨rfl, rfl⟩ := (runs_deletePod_of_not_isWritable hAddress).1 hDelete.runs
    cases hRest
    exact ⟨_, rfl, .unwritable hLook hAddress⟩
  | true =>
    obtain ⟨deletion, rfl, rfl⟩ := (runs_deletePod hAddress).1 hDelete.runs
    cases deletion with
    | none => exact absurd rfl (alwaysEnds_deletePod ns name hDelete)
    | some deletion =>
      rw [Option.map_some] at hRest
      cases hDeletion : deletion >>= deletionIn name with
      | error f =>
        rw [hDeletion] at hRest
        cases hRest
        exact ⟨_, rfl, .deletionFailed hLook hAddress hDeletion⟩
      | ok _ =>
        rw [hDeletion, resume_ok] at hRest
        have hEnough : between + timeout ≤ between + .ofSeconds (timeout.secondsUp + 2) := by
          show between.nanos + timeout.nanos ≤
            between.nanos + ((timeout.nanos + 999999999) / 1000000000 + 2) * 1000000000
          omega
        obtain ⟨polled, r, later, hWaits, hEnding⟩ := passes_inTime hRest
        have hPolls := polls_of_passes hUsable hWaits hEnough
        obtain ⟨outcome, rfl, rfl, rfl⟩ | ⟨rfl, hLate⟩ := hEnding
        · exact ⟨outcome, rfl, .decided hLook hAddress hDeletion hPolls⟩
        · obtain ⟨rfl, rfl⟩ := hLate hPolls.limit_le
          exact ⟨_, rfl, .late hLook hAddress hDeletion hPolls⟩

theorem deletes_of_passes {ending : Result Unit}
    (h : Passes now (deletePodAndWait (findPod ns name) (deletePod ns name) name timeout) steps ending
      ended) : ∃ outcome, ending = some outcome ∧ Deletes ns name timeout steps outcome := by
  obtain ⟨before, r, between, after, rfl, hLook, hRest⟩ := h.of_andThen
  by_cases hUsable : IsUsable ns name
  · obtain ⟨look, rfl, rfl⟩ := (runs_findPod hUsable).1 hLook.runs
    cases look with
    | none => exact absurd rfl (alwaysEnds_findPod ns name hLook)
    | some look =>
      rw [Option.map_some] at hRest
      cases hFound : look >>= podIn name with
      | error f =>
        rw [hFound] at hRest
        cases hRest
        exact ⟨_, rfl, .lookFailed hFound⟩
      | ok found =>
        rw [hFound, resume_ok] at hRest
        cases found with
        | none =>
          cases hRest
          exact ⟨_, rfl, .absent hFound⟩
        | some pod => exact deletes_of_deleteFound hUsable hFound hRest
  · obtain ⟨rfl, fault, rfl⟩ := runs_findPod_of_not_usable hUsable hLook.runs
    cases hRest
    exact ⟨_, rfl, .unsent fault⟩

/-! ### What shows of a deletion -/

def sends (method : Method) : Errand → Bool
  | .exchange m => m.method == method
  | .openSession .. => false

/-- What the messages with a method come to, those that are answered, one after the other. -/
def replies {α : Type} (method : Method) (judge : Except ServerFault Reply → Except Failure α)
    (steps : List (Step interface)) : List (Except Failure α) :=
  steps.filterMap fun
    | .call (.exchange m) (some answer) => if m.method = method then some (answer >>= judge) else none
    | _ => none

abbrev looks (name : String) : List (Step interface) → List (Except Failure (Option Pod)) :=
  replies .get (podIn name)

abbrev deletions (name : String) : List (Step interface) → List (Except Failure Unit) :=
  replies .delete (deletionIn name)

/-- If the step asks for something, it asks for the pod or deletes it. -/
def Concerns (ns name : String) : Step interface → Prop
  | .call r _ => r = .exchange (lookMessage ns name) ∨ r = .exchange (deletionMessage ns name)
  | .clock _ | .sleep .. => True

/-- A deletion that is waited for, as it should be. -/
structure Settles (ns name : String) (timeout : Duration) (steps : List (Step interface))
    (ending : Result Unit) : Prop where
  ends : ending ≠ none
  begins : (∃ answer rest, steps = lookStep ns name (some answer) :: rest) ∨
    ∃ fault, steps = [] ∧ ending = some (.error (.ofServer s!"get pod {name}" fault))
  concerns : ∀ step ∈ steps, Concerns ns name step
  /-- Nothing is deleted when the first lookup does not find the pod. -/
  spares : (∀ pod, (looks name steps).head? ≠ some (.ok (some pod))) →
    timesAsked (sends .delete) steps = 0
  /-- Else there is one deletion, which is answered, as long as it has an address. -/
  deletes : ∀ pod, (looks name steps).head? = some (.ok (some pod)) →
    if (deletionMessage ns name).address.isWritable then
      timesAsked (sends .delete) steps = 1 ∧ (deletions name steps).length = 1
    else timesAsked (sends .delete) steps = 0 ∧
      ending = some (.error (.ofServer s!"delete pod {name}" .unwritable))
  ok : ending = some (.ok ()) → (looks name steps).head? = some (.ok none) ∨
    ∃ pod last, (looks name steps).head? = some (.ok (some pod)) ∧ deletions name steps = [.ok ()] ∧
      (looks name steps).getLast? = some (.ok last) ∧
      ∀ other, last = some other → other.metadata.uid ≠ pod.metadata.uid
  stillPresent : ∀ uid, deletions name steps = [.ok ()] →
    (∀ look ∈ looks name steps, ∃ pod, look = .ok (some pod) ∧ pod.metadata.uid = uid) →
      ending = some (.error (stillPresent name timeout))
  few : timesAsked (sends .get) steps ≤ timeout.seconds + 3
  failures : ∀ f, .error f ∈ looks name steps ∨ .error f ∈ deletions name steps →
    ending = some (.error f)

section Shown

variable {α : Type} {method : Method} {judge : Except ServerFault Reply → Except Failure α}
  {answer : Except Failure (Except ServerFault Reply)}

@[simp] theorem replies_nil : replies method judge [] = [] := rfl

@[simp] theorem replies_append (before after : List (Step interface)) :
    replies method judge (before ++ after) = replies method judge before ++ replies method judge after :=
  List.filterMap_append

@[simp] theorem replies_clock (t : Duration) :
    replies method judge (.clock t :: steps) = replies method judge steps := rfl

@[simp] theorem replies_sleep (t : Duration) (slept : Bool) :
    replies method judge (.sleep t slept :: steps) = replies method judge steps := rfl

@[simp] theorem replies_cutOff :
    replies method judge (lookStep ns name none :: steps) = replies method judge steps := rfl

@[simp] theorem replies_look : replies method judge (lookStep ns name (some answer) :: steps) =
    if .get = method then (answer >>= judge) :: replies method judge steps
    else replies method judge steps := by
  cases method <;> rfl

@[simp] theorem replies_deletion : replies method judge (deletionStep ns name (some answer) :: steps) =
    if .delete = method then (answer >>= judge) :: replies method judge steps
    else replies method judge steps := by
  cases method <;> rfl

@[simp] theorem concerns_look (r : Result (Except ServerFault Reply)) :
    Concerns ns name (lookStep ns name r) := .inl rfl

@[simp] theorem concerns_deletion (r : Result (Except ServerFault Reply)) :
    Concerns ns name (deletionStep ns name r) := .inr rfl

@[simp] theorem concerns_clock (t : Duration) : Concerns ns name (.clock t) := trivial

@[simp] theorem concerns_sleep (t : Duration) (slept : Bool) : Concerns ns name (.sleep t slept) := trivial

@[simp] theorem asks_look (r : Result (Except ServerFault Reply)) :
    (lookStep ns name r).asks (sends method) = (.get == method) := rfl

@[simp] theorem asks_deletion (r : Result (Except ServerFault Reply)) :
    (deletionStep ns name r).asks (sends method) = (.delete == method) := rfl

end Shown

section Polls

variable {ending : Result Unit} {outcome : Except Failure Unit}

theorem Polls.concerns (h : Polls ns name uid limit now steps ending ended) :
    ∀ step ∈ steps, Concerns ns name step := by
  induction h with
  | late => simp
  | cutOff | decided | asleep => simp
  | again _ _ _ _ _ ih => simpa using ih

theorem Polls.deletions_eq (h : Polls ns name uid limit now steps ending ended) :
    deletions name steps = [] := by
  induction h with
  | late | cutOff | decided | asleep => rfl
  | again _ _ _ _ _ ih => simpa using ih

theorem Polls.timesAsked_delete (h : Polls ns name uid limit now steps ending ended) :
    timesAsked (sends .delete) steps = 0 := by
  induction h with
  | late | cutOff | decided | asleep => rfl
  | again _ _ _ _ _ ih => simpa using ih

/-- The last lookup settles the matter, and none before it does. -/
theorem Polls.looks_of_decided (h : Polls ns name uid limit now steps ending ended)
    (hEnding : ending = some outcome) :
    ∃ earlier last, looks name steps = earlier ++ [last] ∧ verdict uid last = some outcome ∧
      ∀ look ∈ earlier, verdict uid look = none := by
  induction h with
  | late | cutOff | asleep => cases hEnding
  | decided _ hVerdict =>
    cases hEnding
    exact ⟨[], _, rfl, hVerdict, by simp⟩
  | again _ hVerdict _ _ _ ih =>
    obtain ⟨earlier, last, hLooks, hLast, hEarlier⟩ := ih hEnding
    exact ⟨_ :: earlier, last, by simp [hLooks], hLast, List.forall_mem_cons.2 ⟨hVerdict, hEarlier⟩⟩

/-- When a wait is cut off, no lookup has settled the matter. -/
theorem Polls.looks_of_cutOff (h : Polls ns name uid limit now steps ending ended)
    (hEnding : ending = none) : ∀ look ∈ looks name steps, verdict uid look = none := by
  induction h with
  | late | cutOff => simp
  | decided => cases hEnding
  | asleep _ hVerdict => simpa using hVerdict
  | again _ hVerdict _ _ _ ih => simpa [hVerdict] using ih hEnding

/-- How many lookups there can be from a time on: one at once, and one after each second until the limit. -/
def mostLooks (now limit : Duration) : Nat :=
  if now ≤ limit then (limit.nanos - now.nanos) / 1000000000 + 2 else 1

theorem one_le_mostLooks (now limit : Duration) : 1 ≤ mostLooks now limit := by
  unfold mostLooks
  split <;> omega

theorem mostLooks_pause {between later : Duration} (hNow : now ≤ between) (hInTime : between ≤ limit)
    (hLater : between + deletionPollInterval ≤ later) :
    mostLooks later limit + 1 ≤ mostLooks now limit := by
  have hBegin : now.nanos ≤ between.nanos := hNow
  have hLimit : between.nanos ≤ limit.nanos := hInTime
  have hPause : between.nanos + 1 * 1000000000 ≤ later.nanos := hLater
  have hStart : now ≤ limit := Duration.le_trans hNow hInTime
  rw [mostLooks, mostLooks, if_pos hStart]
  split
  · rename_i hEarly
    have hSeconds : later.nanos ≤ limit.nanos := hEarly
    omega
  · omega

theorem mostLooks_timeout (now timeout : Duration) :
    mostLooks now (now + timeout) = timeout.seconds + 2 := by
  have hStart : now ≤ now + timeout := Nat.le_add_right now.nanos timeout.nanos
  have hLeft : (now + timeout).nanos - now.nanos = timeout.nanos := Nat.add_sub_cancel_left ..
  rw [mostLooks, if_pos hStart, hLeft, Duration.seconds]

theorem Polls.timesAsked_get (h : Polls ns name uid limit now steps ending ended) :
    timesAsked (sends .get) steps ≤ mostLooks now limit := by
  induction h with
  | late => exact Nat.zero_le _
  | cutOff | decided | asleep => exact one_le_mostLooks _ _
  | @again now between later ended answer rest ending hNow _ hInTime hLater _ ih =>
    have hLonger : mostLooks later limit + 1 ≤ mostLooks now limit := mostLooks_pause hNow hInTime hLater
    simpa using Nat.le_trans (Nat.succ_le_succ ih) hLonger

end Polls

theorem settles_of_deletes {outcome : Except Failure Unit} (h : Deletes ns name timeout steps outcome) :
    Settles ns name timeout steps (some outcome) where
  ends := nofun
  begins := by
    cases h with
    | unsent fault => exact .inr ⟨fault, rfl, rfl⟩
    | _ => exact .inl ⟨_, _, rfl⟩
  concerns := by
    cases h with
    | unsent | lookFailed | absent | unwritable | deletionFailed => simp
    | decided _ _ _ hPolls => simpa using hPolls.concerns
    | late _ _ _ hPolls =>
      have hPolled := hPolls.concerns
      simp only [List.forall_mem_cons, List.forall_mem_append]
      simpa using hPolled
  spares := by
    intro hFirst
    cases h with
    | unsent | lookFailed | absent | unwritable => rfl
    | deletionFailed hLook | decided hLook | late hLook => simp [hLook] at hFirst
  deletes := by
    intro pod hFirst
    cases h with
    | unsent => simp at hFirst
    | lookFailed hLook | absent hLook => simp [hLook] at hFirst
    | unwritable _ hAddress => simp [hAddress]
    | deletionFailed _ hAddress => simp [hAddress]
    | decided _ hAddress _ hPolls | late _ hAddress _ hPolls =>
      simp [hAddress, hPolls.timesAsked_delete, hPolls.deletions_eq]
  ok := by
    rintro ⟨⟩
    cases h with
    | absent hLook => simp [hLook]
    | decided hLook _ hDeletion hPolls =>
      obtain ⟨earlier, last, hLooks, hLast, -⟩ := hPolls.looks_of_decided rfl
      obtain ⟨found, rfl, hOther⟩ := verdict_eq_ok_iff.1 hLast
      refine .inr ⟨_, found, ?_, ?_, ?_, hOther⟩
      · simp [hLook]
      · simp [hDeletion, hPolls.deletions_eq]
      · simp [hLooks, List.getLast?_cons]
  stillPresent := by
    intro uid hDeletions hSame
    cases h with
    | unsent | lookFailed | absent | unwritable => simp at hDeletions
    | deletionFailed _ _ hDeletion => simp [hDeletion] at hDeletions
    | decided hLook _ hDeletion hPolls =>
      -- The last lookup would have shown another pod.
      obtain ⟨earlier, last, hLooks, hLast, -⟩ := hPolls.looks_of_decided rfl
      simp only [replies_look, replies_deletion, replies_clock, if_true, reduceCtorEq, if_false, hLook,
        hLooks, List.forall_mem_cons, List.forall_mem_append] at hSame
      obtain ⟨⟨first, ⟨⟩, hFirst⟩, -, ⟨pod, hPod, hUid⟩, -⟩ := hSame
      rw [verdict_eq_none_iff.2 ⟨pod, hPod, hUid.trans hFirst.symm⟩] at hLast
      cases hLast
    | late => rfl
  few := by
    cases h with
    | unsent | lookFailed | absent | unwritable | deletionFailed => simp
    | decided _ _ _ hPolls | late _ _ _ hPolls =>
      have hLooks := hPolls.timesAsked_get
      rw [mostLooks_timeout] at hLooks
      simpa using hLooks
  failures := by
    intro f hFailure
    cases h with
    | unsent => simp at hFailure
    | lookFailed hLook => simpa [hLook, eq_comm] using hFailure
    | absent hLook | unwritable hLook => simp [hLook] at hFailure
    | deletionFailed hLook _ hDeletion => simpa [hLook, hDeletion, eq_comm] using hFailure
    | decided hLook _ hDeletion hPolls =>
      obtain ⟨earlier, last, hLooks, hLast, hEarlier⟩ := hPolls.looks_of_decided rfl
      have hMem : .error f ∈ earlier ∨ .error f = last := by
        simpa [hLook, hLooks, hDeletion, hPolls.deletions_eq] using hFailure
      obtain hMem | rfl := hMem
      · cases hEarlier _ hMem
      · exact hLast.symm
    | @late look deletion pod started ended polled hLook _ hDeletion hPolls =>
      have hMem : .error f ∈ looks name polled := by
        simpa [hLook, hDeletion, hPolls.deletions_eq] using hFailure
      cases hPolls.looks_of_cutOff rfl _ hMem

/-- A deletion of a pod that is waited for comes to an end, whatever the server answers and however long
that takes, and it ends as it should. -/
theorem settles_deletePodAndWait (ns : String)
    (credentials : String → Logged (Option Registry.Credentials)) (name : String)
    (timeout now : Duration) :
    (∀ answers : Answers interface, ∃ steps ending ended,
      Passes now (answer ns credentials (.deletePodAndWait name timeout)) steps ending ended ∧
        IsAnswered answers steps) ∧
    ∀ ⦃steps ending ended⦄,
      Passes now (answer ns credentials (.deletePodAndWait name timeout)) steps ending ended →
        Settles ns name timeout steps ending := by
  refine ⟨fun answers => ?_, fun steps ending ended h => ?_⟩
  · exact ⟨_, _, _, passes_play answers _ now, isAnswered_play answers _ now⟩
  · obtain ⟨outcome, rfl, hDeletes⟩ := deletes_of_passes h
    exact settles_of_deletes hDeletes

def podReply (uid : String) : Reply :=
  ⟨200, "\x7b\"apiVersion\":\"v1\",\"kind\":\"Pod\",\"metadata\":\x7b\"name\":\"devpod-a\",\"uid\":\"" ++
    uid ++ "\"\x7d\x7d"⟩

def successReply : Reply :=
  ⟨200, "\x7b\"apiVersion\":\"v1\",\"kind\":\"Status\",\"metadata\":\x7b\x7d,\"status\":\"Success\"\x7d"⟩

/-- A server that accepts a deletion and goes on showing the same pod. -/
def stubborn (_ : Nat) : (r : Errand) → Except Failure r.Answer
  | .exchange m => .ok (.ok (if m.method = .delete then successReply else podReply "a-1"))
  | .openSession .. => .ok (.error .unreachable)

def stubbornTalk : Talk Unit :=
  answer "default" (fun _ => .ofExcept (.ok none)) (.deletePodAndWait "devpod-a" (.ofSeconds 1))

/-- The run of a deletion on this server, with a second for it. -/
def stubbornRun : Played interface Unit := play stubborn ⟨0⟩ stubbornTalk

theorem settles_deletePodAndWait_of_stubborn :
    Passes ⟨0⟩ stubbornTalk stubbornRun.steps stubbornRun.ending stubbornRun.ended ∧
    deletions "devpod-a" stubbornRun.steps = [.ok ()] ∧
    (looks "devpod-a" stubbornRun.steps).length = 3 ∧
    stubbornRun.ending = some (.error (stillPresent "devpod-a" (.ofSeconds 1))) := by
  have hPasses : Passes ⟨0⟩ stubbornTalk stubbornRun.steps stubbornRun.ending stubbornRun.ended := by
    rw [stubbornRun]
    exact passes_play stubborn stubbornTalk ⟨0⟩
  have hDeletions : deletions "devpod-a" stubbornRun.steps = [.ok ()] := by
    have hAccepted : (deletions "devpod-a" stubbornRun.steps).map Except.toOption = [some ()] := by
      decide +kernel
    obtain ⟨outcome, hOutcome, hOk⟩ := List.map_eq_singleton_iff.1 hAccepted
    rw [hOutcome]
    cases outcome with
    | error f => cases hOk
    | ok _ => rfl
  have hUids : (looks "devpod-a" stubbornRun.steps).map (·.toOption.join.bind (·.metadata.uid)) =
      List.replicate 3 (some "a-1") := by decide +kernel
  have hSettles : Settles "default" "devpod-a" (.ofSeconds 1) stubbornRun.steps stubbornRun.ending :=
    (settles_deletePodAndWait "default" (fun _ => .ofExcept (.ok none)) "devpod-a" (.ofSeconds 1) ⟨0⟩).2
      hPasses
  refine ⟨hPasses, hDeletions, ?_, hSettles.stillPresent (some "a-1") hDeletions ?_⟩
  · simpa using congrArg List.length hUids
  · intro look hMem
    have hUid : look.toOption.join.bind (·.metadata.uid) = some "a-1" :=
      List.eq_of_mem_replicate (hUids ▸ List.mem_map_of_mem hMem)
    rcases look with f | _ | pod
    · cases hUid
    · cases hUid
    · exact ⟨pod, rfl, hUid⟩

end PodWorkspace.Server
