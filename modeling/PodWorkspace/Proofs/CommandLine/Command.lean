import PodWorkspace.CommandLine.Output
import PodWorkspace.Proofs.Program.Answering
import PodWorkspace.Proofs.Server.Exchange
import PodWorkspace.Proofs.Text.Blank
import PodWorkspace.Proofs.Text.Digits
import PodWorkspace.Proofs.Workspace.Stage

/-! How a command in the container ends, which the server reports at the end of its session. A failure
is told with the exit code that the report carries, whatever this is. Without a report that can be read
nothing tells how the command ended, and it counts as a success then. -/

namespace PodWorkspace

open Cluster Program

namespace Server

/-- The report that came in a session, if one came that can be read. -/
def Session.report? (s : Session) : Option ExecReport := s.split.2.bind ExecReport.ofText?

namespace ExecReport

variable {r : ExecReport} {pod : String}

/-- The first cause with the reason for an exit code carries this one. -/
def Carries (r : ExecReport) (code : Int) : Prop :=
  ∃ before c after, r.causes = before ++ c :: after ∧
    (∀ b ∈ before, b.reason ≠ some "ExitCode") ∧ c.reason = some "ExitCode" ∧
      ∃ message, c.message = some message ∧ exitCode? message = some code

theorem exitCodeOf?_eq_some_iff {code : Int} : r.exitCodeOf? = some code ↔ r.Carries code := by
  simp only [exitCodeOf?, Option.bind_eq_some_iff, List.find?_eq_some_iff_append, Carries]
  constructor
  · rintro ⟨message, ⟨c, ⟨hReason, before, after, hCauses, hBefore⟩, hMessage⟩, hCode⟩
    exact ⟨before, c, after, hCauses, by simpa using hBefore, by simpa using hReason, message,
      hMessage, hCode⟩
  · rintro ⟨before, c, after, hCauses, hBefore, hReason, message, hMessage, hCode⟩
    exact ⟨message, ⟨c, ⟨by simpa using hReason, before, after, hCauses, by simpa using hBefore⟩,
      hMessage⟩, hCode⟩

/-- The integer that digits spell, with or without a sign. -/
def signed? (cs : List Char) : Option Int :=
  match cs with
  | '-' :: ds => (Text.natOfDigits? 10 ds).map fun n => -(n : Int)
  | '+' :: ds => (Text.natOfDigits? 10 ds).map fun n => (n : Int)
  | ds => (Text.natOfDigits? 10 ds).map fun n => (n : Int)

theorem exitCode?_eq (s : String) :
    exitCode? s = (signed? (Text.trim s).toList).bind fun n =>
      if Document.hasWidth 32 n then some n else none := by
  unfold exitCode?
  generalize (Text.trim s).toList = cs
  fun_cases signed? cs with
  | case1 ds => rfl
  | case2 ds => rfl
  | case3 cs hMinus hPlus =>
    split
    · exact absurd rfl (hMinus _)
    · exact absurd rfl (hPlus _)
    · rfl

/-- The digits of an integer, as they are printed, spell it. -/
theorem signed?_toString (n : Int) : signed? (Text.trim (toString n)).toList = some n := by
  have hDigit {n : Nat} : ∀ c ∈ Nat.toDigits 10 n, c.isDigit = true := fun _ hMem =>
    Nat.isDigit_of_mem_toDigits (by decide) (by decide) hMem
  have hBlank {n : Nat} : ∀ c ∈ Nat.toDigits 10 n, Text.isBlank c = false := fun c hMem =>
    Text.not_isBlank_of_isDigit (hDigit c hMem)
  cases n with
  | ofNat n =>
    have hText : (Text.trim (toString (Int.ofNat n))).toList = Nat.toDigits 10 n := by
      rw [Int.toString_eq_repr, Int.repr, Text.trim, Nat.toList_repr, String.toList_ofList,
        Text.trimChars_of_forall hBlank]
    rw [hText]
    unfold signed?
    split
    case h_1 hSign => exact absurd (hDigit (n := n) '-' (by simp [hSign])) (by decide)
    case h_2 hSign => exact absurd (hDigit (n := n) '+' (by simp [hSign])) (by decide)
    case h_3 => simp [Text.natOfDigits?_toDigits]
  | negSucc n =>
    have hText : (Text.trim (toString (Int.negSucc n))).toList = '-' :: Nat.toDigits 10 (n + 1) := by
      rw [Int.toString_eq_repr, Int.repr, Text.trim, String.toList_append, Nat.toList_repr,
        String.toList_ofList]
      exact Text.trimChars_of_forall (List.forall_mem_cons.2 ⟨by decide, hBlank⟩)
    rw [hText]
    simp [signed?, Text.natOfDigits?_toDigits, Int.negSucc_eq]

/-- An exit code of 32 bits is read from its digits. -/
theorem exitCode?_toString {code : Int} (h : Document.hasWidth 32 code = true) :
    exitCode? (toString code) = some code := by
  rw [exitCode?_eq, signed?_toString]
  exact if_pos h

theorem carries_of_causes {before after : List Cause} {code : Int}
    (hCauses : r.causes = before ++ ⟨some "ExitCode", some (toString code)⟩ :: after)
    (hFirst : ∀ c ∈ before, c.reason ≠ some "ExitCode") (hWidth : Document.hasWidth 32 code = true) :
    r.Carries code :=
  ⟨before, _, after, hCauses, hFirst, rfl, _, rfl, exitCode?_toString hWidth⟩

theorem outcome_eq_ok_iff : r.outcome pod = .ok () ↔ r.status = some "Success" := by
  unfold outcome
  by_cases hStatus : r.status = some "Success"
  · simp [hStatus]
  · cases r.exitCodeOf? <;> simp [hStatus]

theorem exitCode_of_outcome {f : Failure} (h : r.outcome pod = .error f) :
    f.exitCode = r.exitCodeOf?.getD 1 := by
  unfold outcome at h
  split at h
  · cases h
  · cases hCode : r.exitCodeOf? <;> (rw [hCode] at h; cases h; rfl)

theorem outcome_of_carries {code : Int} (hStatus : r.status ≠ some "Success")
    (hCarries : r.Carries code) :
    r.outcome pod = .error (.exited s!"exec in {pod}" code r.message) := by
  rw [outcome, if_neg hStatus, exitCodeOf?_eq_some_iff.2 hCarries]

theorem exitCode_of_carries {f : Failure} {code : Int} (h : r.outcome pod = .error f)
    (hCarries : r.Carries code) : f.exitCode = code := by
  rw [exitCode_of_outcome h, exitCodeOf?_eq_some_iff.2 hCarries, Option.getD_some]

/-- A failure looks like a success to the caller of the process just when it carries that code. -/
theorem exitCode_eq_zero_iff {f : Failure} (h : r.outcome pod = .error f) :
    f.exitCode = 0 ↔ r.Carries 0 := by
  refine ⟨fun hZero => ?_, exitCode_of_carries h⟩
  rw [exitCode_of_outcome h] at hZero
  cases hCode : r.exitCodeOf? with
  | none => simp [hCode] at hZero
  | some code =>
    rw [hCode, Option.getD_some] at hZero
    exact exitCodeOf?_eq_some_iff.1 (hZero ▸ hCode)

end ExecReport

def execMessage (ns pod container : String) (command : List String) (stdin : Option String) :
    Message :=
  ⟨.get, .withQuery s!"{Collection.pods.path ns}/{pod}/exec"
    (execQuery container command stdin.isSome), none⟩

/-- A command that was run: a session was opened, and read. -/
theorem runs_exec_ok {ns pod container : String} {command : List String} {stdin : Option String}
    {steps : List (Step interface)} {e : ExecSession} :
    Runs (exec ns pod container command stdin) steps (some (.ok e)) ↔
      (execMessage ns pod container command stdin).address.isWritable = true ∧ ∃ session : Session,
        steps = [.call (.openSession (execMessage ns pod container command stdin) stdin)
            (some (.ok (.ok session)))] ∧
          e = session.read pod := by
  unfold exec execMessage
  dsimp only
  split
  case isFalse hWritable => simp [hWritable]
  case isTrue hWritable =>
    refine runs_andThen_ok.trans ?_
    simp only [hWritable, true_and, bind_eq_andThen, runs_noteUnreachable_andThen]
    constructor
    · rintro ⟨_, answer, _, rfl, hAsk, hRest⟩
      obtain rfl := runs_ask.1 hAsk
      cases answer with
      | error fault => simp [settle] at hRest
      | ok session =>
        obtain ⟨rfl, ⟨⟩⟩ := runs_done.1 hRest
        exact ⟨session, rfl, rfl⟩
    · rintro ⟨session, rfl, rfl⟩
      exact ⟨[_], .ok session, [], rfl, runs_ask.2 rfl, runs_done.2 ⟨rfl, rfl⟩⟩

end Server

namespace CommandLine

open Server

variable {user : Option String} {text : String} {m : Machine} {options : Options} {output : Output}

theorem Task.runs_perform_command_ok {w : Workspace} {steps : List (Step Cluster.interface)} :
    Runs ((Task.command user text).perform m w) steps (some (.ok output)) ↔
      ∃ e : ExecSession, steps = [.call (.exec w.resource Manifest.devContainerName
          (Workspace.execCommand user text) m.stdin) (some (.ok e))] ∧
        output = ⟨e.stdout, e.stderr, e.ended⟩ := by
  refine runs_andThen_ok.trans ⟨?_, ?_⟩
  · rintro ⟨_, e, _, rfl, hCommand, hOutput⟩
    obtain ⟨answer, rfl, hEnding⟩ := Workspace.runs_request.1 (runs_log.1 hCommand)
    obtain ⟨rfl, ⟨⟩⟩ := runs_done.1 hOutput
    rcases answer with _ | (f | e') <;> cases hEnding
    exact ⟨e, rfl, rfl⟩
  · rintro ⟨e, rfl, rfl⟩
    exact ⟨[_], e, [], rfl, runs_log.2 (Workspace.runs_request.2 ⟨some (.ok e), rfl, rfl⟩),
      runs_done.2 ⟨rfl, rfl⟩⟩

/-- A task is done once the connection says in which namespace. -/
theorem Task.runs_performOnCluster {t : Task} {steps : List (Step Server.interface)}
    {ending : Result Output} :
    Runs (t.performOnCluster m options) steps ending ↔
      Runs (resume (fun ns => .answeredBy (Server.answer ns m.credentials.lookup)
          (t.perform m ⟨options, ns, m.files⟩))
        (some (connect m.files m.env options.connection).outcome)) steps ending := by
  rw [← runs_ofLogged_andThen]
  unfold Task.performOnCluster
  simp only [bind_eq_andThen, note_andThen]
  cases options.connection.kubeconfig <;> cases options.connection.context <;>
    simp only [runs_log]

/-- The message that opens a session with a command in the container of a workspace. -/
def Machine.commandMessage (m : Machine) (w : Workspace) (user : Option String) (text : String) :
    Message :=
  execMessage w.namespace w.resource Manifest.devContainerName (Workspace.execCommand user text)
    m.stdin

def Output.ofSession (session : Session) (pod : String) : Output where
  stdout := Session.written session.split.1 stdoutChannel
  stderr := Session.written session.split.1 stderrChannel
  ended := execOutcome pod session.report?

/-- A command that was run on the cluster: the pod was found, a session was opened there, and read. -/
theorem Task.runs_performOnCluster_command_ok {steps : List (Step Server.interface)} :
    Runs ((Task.command user text).performOnCluster m options) steps (some (.ok output)) ↔
      ∃ ns, (connect m.files m.env options.connection).outcome = .ok ns ∧
        (m.commandMessage ⟨options, ns, m.files⟩ user text).address.isWritable = true ∧
          ∃ session : Session,
            steps = [.call (.openSession (m.commandMessage ⟨options, ns, m.files⟩ user text) m.stdin)
              (some (.ok (.ok session)))] ∧
            output = .ofSession session (Workspace.mk options ns m.files).resource := by
  rw [Task.runs_performOnCluster]
  cases (connect m.files m.env options.connection).outcome with
  | error f => simp
  | ok ns =>
    simp only [resume_ok, runs_answeredBy, Task.runs_perform_command_ok, Except.ok.injEq,
      exists_eq_left']
    constructor
    · rintro ⟨_, ⟨e, rfl, rfl⟩, hExpands⟩
      obtain ⟨hWritable, session, rfl, rfl⟩ := runs_exec_ok.1 (expands_singleton.1 hExpands)
      exact ⟨hWritable, session, rfl, rfl⟩
    · rintro ⟨hWritable, session, rfl, rfl⟩
      exact ⟨_, ⟨_, rfl, rfl⟩, expands_singleton.2 (runs_exec_ok.2 ⟨hWritable, session, rfl, rfl⟩)⟩

/-- An ending tells what was reported: a success is one that was reported, and the exit code of the
process after a failure is not 0, and is the reported one where there is one. -/
structure Tells (report : Option ExecReport) (ended : Except Failure Unit) : Prop where
  reported : ended = .ok () → ∃ r ∈ report, r.status = some "Success"
  nonzero : ended ≠ .ok () → exitCode ended ≠ 0
  passedOn : ended ≠ .ok () → ∀ r ∈ report, ∀ code, r.Carries code → code ≠ 0 → exitCode ended = code

theorem tells_execOutcome_iff {pod : String} {report : Option ExecReport} :
    Tells report (execOutcome pod report) ↔
      ∃ r ∈ report, r.status = some "Success" ∨ ¬ r.Carries 0 := by
  cases report with
  | none =>
    constructor
    · intro h
      obtain ⟨r, ⟨⟩, -⟩ := h.reported rfl
    · rintro ⟨r, ⟨⟩, -⟩
  | some r =>
    simp only [execOutcome, Option.mem_some_iff, exists_eq_left']
    cases hEnded : r.outcome pod with
    | ok =>
      have hStatus := ExecReport.outcome_eq_ok_iff.1 hEnded
      exact iff_of_true ⟨fun _ => ⟨r, rfl, hStatus⟩, by simp, by simp⟩ (.inl hStatus)
    | error f =>
      have hStatus : r.status ≠ some "Success" := fun hStatus => by
        simp [ExecReport.outcome_eq_ok_iff.2 hStatus] at hEnded
      rw [← ExecReport.exitCode_eq_zero_iff hEnded, or_iff_right hStatus]
      constructor
      · exact fun h => h.nonzero (by simp)
      · refine fun hNonzero => ⟨by simp, fun _ => hNonzero, ?_⟩
        rintro - _ ⟨⟩ code hCarries -
        exact ExecReport.exitCode_of_carries hEnded hCarries

/-- A command that was run had one session. Its ending tells what was reported there just when a
report came that can be read, and this one is not about a failure with the exit code 0. -/
theorem Task.tells_iff_of_command {steps : List (Step Server.interface)}
    (hRun : Runs ((Task.command user text).performOnCluster m options) steps (some (.ok output))) :
    ∃ message session,
      steps = [.call (.openSession message m.stdin) (some (.ok (.ok session)))] ∧
        (Tells session.report? output.ended ↔
          ∃ r ∈ session.report?, r.status = some "Success" ∨ ¬ r.Carries 0) := by
  obtain ⟨ns, -, -, session, rfl, rfl⟩ := Task.runs_performOnCluster_command_ok.1 hRun
  exact ⟨_, session, rfl, tells_execOutcome_iff⟩

/-- A machine that has a kubeconfig file. -/
def Machine.connected : Machine where
  files := fun _ => .ok ("contexts:\n- name: k\n  context:\n    cluster: k\n" ++
    "clusters:\n- name: k\n  cluster:\n    server: http://k\n")
  env := fun _ => none
  runHelper := fun _ _ => .notStarted "helper not found"
  suffix := "abcdef"

/-- The options for a workspace on the server of the context in that file. -/
def connectedOptions : Options where
  workspaceId := "notes"
  connection := { kubeconfig := some "config", context := some "k" }

theorem connect_connected :
    (connect Machine.connected.files Machine.connected.env connectedOptions.connection).outcome =
      .ok "default" := by
  have hSome : (connect Machine.connected.files Machine.connected.env
      connectedOptions.connection).outcome.toOption = some "default" := by decide +kernel
  generalize (connect _ _ _).outcome = outcome at hSome ⊢
  cases outcome with
  | ok ns => exact congrArg Except.ok (Option.some_inj.1 hSome)
  | error f => cases hSome

/-- The program that runs `false` in that workspace. -/
abbrev commandFalse : Talk Output :=
  (Task.command none "false").performOnCluster Machine.connected connectedOptions

def commandFalseMessage : Message :=
  Machine.connected.commandMessage ⟨connectedOptions, "default", Machine.connected.files⟩ none "false"

theorem runs_commandFalse (session : Session) :
    Runs commandFalse [.call (.openSession commandFalseMessage none) (some (.ok (.ok session)))]
      (some (.ok (.ofSession session "devpod-notes"))) :=
  Task.runs_performOnCluster_command_ok.2
    ⟨"default", connect_connected, by decide +kernel, session, rfl, rfl⟩

def failureReport (code : Int) : ExecReport where
  status := some "Failure"
  causes := [⟨some "ExitCode", some (toString code)⟩]

theorem failureReport_carries {code : Int} (hWidth : Document.hasWidth 32 code = true) :
    (failureReport code).Carries code :=
  @ExecReport.carries_of_causes _ [] _ _ rfl (by simp) hWidth

/-- A session in which the server only sends that report. -/
def failing (code : Int) : Session :=
  [(reportChannel, "\x7b\"status\":\"Failure\",\"details\":\x7b\"causes\":[" ++
    "\x7b\"reason\":\"ExitCode\",\"message\":\"" ++ toString code ++ "\"\x7d]\x7d\x7d")]

theorem Task.tells_iff_of_command_of_failing :
    ∃ steps output, Runs commandFalse steps (some (.ok output)) ∧ exitCode output.ended = 3 ∧
      ∃ message session, steps = [.call (.openSession message none) (some (.ok (.ok session)))] ∧
        (Tells session.report? output.ended ↔
          ∃ r ∈ session.report?, r.status = some "Success" ∨ ¬ r.Carries 0) :=
  ⟨_, _, runs_commandFalse (failing 3), by decide +kernel,
    Task.tells_iff_of_command (runs_commandFalse (failing 3))⟩

/-- A session that ends before a report came looks like a success, and so does a failure with the exit
code 0. -/
theorem Task.command_hides_failure :
    (∃ output, Runs commandFalse
        [.call (.openSession commandFalseMessage none) (some (.ok (.ok [])))]
        (some (.ok output)) ∧
      Session.report? [] = none ∧ output.ended = .ok ()) ∧
    ∃ output f, Runs commandFalse
        [.call (.openSession commandFalseMessage none) (some (.ok (.ok (failing 0))))]
        (some (.ok output)) ∧
      (failing 0).report? = some (failureReport 0) ∧
      output.ended = .error f ∧ exitCode output.ended = 0 := by
  have hReport : (failing 0).report? = some (failureReport 0) := by decide +kernel
  have hCarries : (failureReport 0).Carries 0 := failureReport_carries (by decide)
  have hFailure :=
    @ExecReport.outcome_of_carries _ "devpod-notes" _ (by simp [failureReport]) hCarries
  have hEnded : (Output.ofSession (failing 0) "devpod-notes").ended =
      execOutcome "devpod-notes" (some (failureReport 0)) := by rw [Output.ofSession, hReport]
  exact ⟨⟨_, runs_commandFalse [], rfl, rfl⟩,
    ⟨_, _, runs_commandFalse (failing 0), hReport, hEnded.trans hFailure, by
      rw [hEnded]
      exact ExecReport.exitCode_of_carries hFailure hCarries⟩⟩

end CommandLine

end PodWorkspace
