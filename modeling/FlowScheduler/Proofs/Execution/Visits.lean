import Mathlib
import FlowScheduler.Proofs.Execution.StepGraph

/-!
Visits of steps and what the transcript tells about them.

An execution visits one step after the other, and a visit makes attempts one after the other. An attempt has ended
(`Attempt.EndsAs`) when its request was refused or a report said so. Only an attempt that has failed is followed by
another one, so a visit that goes on has failed so far (`Visit.Goes`), and it ends in one of three ways, each with a
last line of its own (`Visit.Ends`); a step whose number of attempts has overflowed is skipped without an attempt and
without a line. One answer continues the visit or ends it (`Visit.Goes.turns`), and the last line selects the pointer
that leads to the next visit (`Leads`). So the transcript retraces the visits of every execution, whatever the agents
do (`AgentBehaviour.visits_told`).
-/

namespace FlowScheduler

/-! ### Agents -/

/-- How agents behave: what they answer, and the state that they are in afterwards. -/
structure AgentBehaviour (σ : Type) where
  submit : σ → Agent → TaskRequest → Except SchedulerError Int × σ
  poll : σ → Agent → Int → Except SchedulerError TaskStatus × σ

/-- An execution with the agents that serve it and the answers that they have given. -/
structure Conversation (σ : Type) where
  execution : Execution
  agents : σ
  answers : List AgentAnswer

/-- Whether an execution waits for an answer of this kind. -/
inductive ExecutionPhase.Awaits : ExecutionPhase → AgentAnswer → Prop where
  | reply {index : Nat} {step : PreparedStep} {attempt : Nat} {answer : Except SchedulerError Int} :
      Awaits (.submitting index step attempt) (.submitted answer)
  | report {index : Nat} {step : PreparedStep} {attempt : Nat} {remoteId : Int}
      {answer : Except SchedulerError TaskStatus} :
      Awaits (.polling index step attempt remoteId) (.polled answer)

namespace AgentBehaviour

variable {σ : Type} (b : AgentBehaviour σ)

/-- The answer that an execution gets, if it waits for one. -/
def answer? (e : Execution) (s : σ) : Option (AgentAnswer × σ) :=
  match e.phase with
  | .submitting _ step _ =>
    let (answer, s) := b.submit s step.agent (e.request step)
    some (.submitted answer, s)
  | .polling _ step _ remoteId =>
    let (answer, s) := b.poll s step.agent remoteId
    some (.polled answer, s)
  | .overflowed .. | .ended _ => none

/-- The conversation after one more answer, or after a step has been skipped. -/
def answer (c : Conversation σ) : Conversation σ :=
  match b.answer? c.execution c.agents with
  | some (a, s) => ⟨c.execution.take a, s, c.answers ++ [a]⟩
  | none => { c with execution := c.execution.skip }

/-- The conversation about a run after so many answers and skipped steps, or after all of them if the run has ended
before. -/
def converse (r : PreparedRun) (s : σ) : Nat → Conversation σ
  | 0 => ⟨.start r, s, []⟩
  | n + 1 => b.answer (converse r s n)

theorem answer_of_overflowed {c : Conversation σ} {index : Nat} {step : PreparedStep}
    (h : c.execution.phase = .overflowed index step) :
    b.answer c = { c with execution := c.execution.skip } := by
  simp [answer, answer?, h]

theorem answer_cases (c : Conversation σ) :
    (∃ result, c.execution.phase = .ended result) ∧ b.answer c = c ∨
      (∃ index step, c.execution.phase = .overflowed index step) ∧
        b.answer c = { c with execution := c.execution.skip } ∨
      ∃ a s, c.execution.phase.Awaits a ∧ b.answer c = ⟨c.execution.take a, s, c.answers ++ [a]⟩ := by
  obtain ⟨⟨run, transcript, phase⟩, s, answers⟩ := c
  cases phase with
  | submitting => exact .inr (.inr ⟨_, _, .reply, rfl⟩)
  | polling => exact .inr (.inr ⟨_, _, .report, rfl⟩)
  | overflowed index step => exact .inr (.inl ⟨⟨index, step, rfl⟩, rfl⟩)
  | ended result => exact .inl ⟨⟨result, rfl⟩, rfl⟩

end AgentBehaviour

/-! ### Attempts -/

/-- One attempt at a step: the reply to its request, and the reports on the accepted task. -/
structure Attempt where
  reply : Except SchedulerError Int
  reports : List (Except SchedulerError TaskStatus) := []

/-- How an attempt can end. -/
inductive AttemptEnd where
  | succeeded (status : TaskStatus)
  | failed (status : TaskStatus)
  /-- The agent did not do what it was asked for. -/
  | errored (error : SchedulerError)

/-- Whether a report says that a task goes on. -/
def IsPending (report : Except SchedulerError TaskStatus) : Prop :=
  ∃ status, report = .ok status ∧ status.onRegister ∧ status.terminated = false

/-- How a report ends the attempt whose task has this id. -/
inductive AttemptEnd.IsReported (remoteId : Int) : Except SchedulerError TaskStatus → AttemptEnd → Prop where
  | succeeded {status : TaskStatus} : status.onRegister → status.terminated → status.result →
      IsReported remoteId (.ok status) (.succeeded status)
  | failed {status : TaskStatus} : status.onRegister → status.terminated → status.result = false →
      IsReported remoteId (.ok status) (.failed status)
  | unknown {status : TaskStatus} : status.onRegister = false →
      IsReported remoteId (.ok status) (.errored (.agentProtocol ("unknown id " ++ toString remoteId)))
  | lost {error : SchedulerError} : IsReported remoteId (.error error) (.errored error)

theorem isPending_or_isReported (remoteId : Int) (report : Except SchedulerError TaskStatus) :
    IsPending report ∨ ∃ last, AttemptEnd.IsReported remoteId report last := by
  cases report with
  | error error => exact .inr ⟨_, .lost⟩
  | ok status =>
    cases hknown : status.onRegister with
    | false => exact .inr ⟨_, .unknown hknown⟩
    | true =>
      cases hended : status.terminated with
      | false => exact .inl ⟨status, rfl, hknown, hended⟩
      | true =>
        cases hresult : status.result with
        | false => exact .inr ⟨_, .failed hknown hended hresult⟩
        | true => exact .inr ⟨_, .succeeded hknown hended hresult⟩

theorem AttemptEnd.IsReported.unique {remoteId : Int} {report : Except SchedulerError TaskStatus}
    {last other : AttemptEnd} (h : IsReported remoteId report last) (h' : IsReported remoteId report other) :
    other = last := by
  cases h with
  | succeeded hknown _ hresult =>
    cases h' with
    | succeeded => rfl
    | failed _ _ hresult' => simp [hresult] at hresult'
    | unknown hunknown => simp [hknown] at hunknown
  | failed hknown _ hresult =>
    cases h' with
    | failed => rfl
    | succeeded _ _ hresult' => simp [hresult] at hresult'
    | unknown hunknown => simp [hknown] at hunknown
  | unknown hunknown =>
    cases h' with
    | unknown => rfl
    | succeeded hknown | failed hknown => simp [hunknown] at hknown
  | lost =>
    cases h' with
    | lost => rfl

namespace Attempt

variable {t : Attempt} {remoteId : Int} {report : Except SchedulerError TaskStatus} {last other : AttemptEnd}

/-- The answers that agents have given to an attempt. -/
def answers (t : Attempt) : List AgentAnswer := .submitted t.reply :: t.reports.map .polled

/-- The attempt after one more report. -/
def hear (t : Attempt) (report : Except SchedulerError TaskStatus) : Attempt :=
  { t with reports := t.reports ++ [report] }

@[simp]
theorem answers_hear : (t.hear report).answers = t.answers ++ [.polled report] := by
  simp [answers, hear]

/-- Whether an attempt was accepted under an id and, as far as was reported, its task goes on. -/
structure Waits (t : Attempt) (remoteId : Int) : Prop where
  reply : t.reply = .ok remoteId
  reports : ∀ report ∈ t.reports, IsPending report

theorem Waits.hear (h : t.Waits remoteId) (hreport : IsPending report) : (t.hear report).Waits remoteId := by
  refine ⟨h.reply, fun p hp => ?_⟩
  rcases List.mem_append.1 hp with hp | hp
  · exact h.reports p hp
  · rw [List.mem_singleton.1 hp]
    exact hreport

/-- How an attempt has ended: its request was refused, or its task went on until a report ended it. -/
inductive EndsAs (t : Attempt) : AttemptEnd → Prop where
  | refused {error : SchedulerError} : t = ⟨.error error, []⟩ → EndsAs t (.errored error)
  | reported {before : Attempt} {remoteId : Int} {report : Except SchedulerError TaskStatus}
      {last : AttemptEnd} : before.Waits remoteId → t = before.hear report →
      AttemptEnd.IsReported remoteId report last → EndsAs t last

theorem EndsAs.unique (h : t.EndsAs last) (h' : t.EndsAs other) : other = last := by
  cases h with
  | refused heq =>
    cases h' with
    | refused heq' =>
      rw [heq'] at heq
      cases heq
      rfl
    | reported hwaits heq' =>
      -- an attempt with reports was accepted
      have hreply := hwaits.reply
      rw [heq] at heq'
      cases hreply.symm.trans (congrArg Attempt.reply heq').symm
  | reported hwaits heq hreported =>
    cases h' with
    | refused heq' =>
      have hreply := hwaits.reply
      rw [heq'] at heq
      cases hreply.symm.trans (congrArg Attempt.reply heq).symm
    | reported hwaits' heq' hreported' =>
      have hsame := heq.symm.trans heq'
      obtain ⟨-, hreport⟩ := List.append_inj' (congrArg Attempt.reports hsame) rfl
      cases hwaits.reply.symm.trans ((congrArg Attempt.reply hsame).trans hwaits'.reply)
      cases hreport
      exact hreported.unique hreported'

end Attempt

/-- An attempt that has failed, with the status that said so. -/
structure Failure where
  attempt : Attempt
  status : TaskStatus
  ended : attempt.EndsAs (.failed status)

/-! ### Where the flow goes -/

/-- Where the flow goes when a step is left: to a step, which may not exist, or to the end. -/
inductive Destination where
  | step (index : Nat)
  | finish (result : RunResult)

/-- Where a pointer leads from the step with an index, in a run with so many steps. -/
def NextStep.destination (p : NextStep) (index count : Nat) : Destination :=
  match p with
  | .fail => .finish .fail
  | .sequential => if count ≤ index then .finish .ok else .step (index + 1)
  | .goto target => .step target

/-- The execution of a run that has just come to a destination, with this transcript. -/
def Destination.reached (r : PreparedRun) (transcript : List TranscriptLine) : Destination → Execution
  | .step index => Execution.enter ⟨r, transcript, .ended .unknown⟩ index
  | .finish result => ⟨r, transcript, .ended result⟩

theorem Execution.enter_eq (e : Execution) (index : Nat) :
    e.enter index = (Destination.step index).reached e.run e.transcript := by
  rw [Destination.reached, Execution.enter, Execution.enter]
  cases e.run.stepAt? index with
  | none | some step => rfl

theorem Execution.follow_eq (e : Execution) (index : Nat) (p : NextStep) :
    e.follow index p = (p.destination index e.run.steps.length).reached e.run e.transcript := by
  cases p with
  | fail => rfl
  | sequential =>
    rw [Execution.follow, NextStep.destination]
    split
    · rfl
    · exact e.enter_eq (index + 1)
  | goto target => exact e.enter_eq target

theorem Execution.leave_eq (e : Execution) (index : Nat) (step : PreparedStep) (succeeded : Bool) :
    e.leave index step succeeded =
      ((step.pointer succeeded).destination index e.run.steps.length).reached e.run e.transcript :=
  e.follow_eq index (step.pointer succeeded)

theorem Execution.skip_of_overflowed {e : Execution} {index : Nat} {step : PreparedStep}
    (h : e.phase = .overflowed index step) : e.skip = e.leave index step false := by
  rw [Execution.skip, h]

/-! ### Visits -/

/-- Whether a line says that a step has succeeded. -/
def TranscriptLine.tellsSuccess : TranscriptLine → Bool
  | succeeded .. => true
  | _ => false

/-- A visit of a step: the attempts that were made, and the lines that tell about it. -/
structure Visit where
  index : Nat
  step : PreparedStep
  attempts : List Attempt := []
  lines : List TranscriptLine := [.started index step.task.name]

namespace Visit

variable {v : Visit} {failures : List Failure} {latest : List Attempt} {closing : List TranscriptLine}
  {phase : ExecutionPhase} {a : AgentAnswer}

/-- The answers that agents have given during a visit. -/
def answers (v : Visit) : List AgentAnswer := v.attempts.flatMap Attempt.answers

/-- The lines of a visit with these failures so far. -/
def opening (v : Visit) (failures : List Failure) : List TranscriptLine :=
  .started v.index v.step.task.name :: failures.mapIdx fun k f =>
    .failed v.index (k + 1) v.step.attempts f.status.durationMs f.status.resultInfo

/-- Whether a visit consists of failures and the latest attempt, if it is no failure, and tells so. -/
structure Consists (v : Visit) (failures : List Failure) (latest : List Attempt)
    (closing : List TranscriptLine) : Prop where
  attempts : v.attempts = failures.map Failure.attempt ++ latest
  lines : v.lines = v.opening failures ++ closing

/-- Whether a visit goes on, in an execution that is in this phase: its attempts have failed so far, and another one
is to be made or waits for a report, or no attempt can be made. -/
inductive Goes (v : Visit) : ExecutionPhase → Prop where
  | submitting {failures : List Failure} : v.Consists failures [] [] → failures.length < v.step.attempts →
      Goes v (.submitting v.index v.step (failures.length + 1))
  | polling {failures : List Failure} {last : Attempt} {remoteId : Int} : v.Consists failures [last] [] →
      failures.length < v.step.attempts → last.Waits remoteId →
      Goes v (.polling v.index v.step (failures.length + 1) remoteId)
  | overflowed : v.Consists [] [] [] → v.step.attempts = 0 → Goes v (.overflowed v.index v.step)

/-- Whether a visit has ended: an attempt after the failures has succeeded, an error has ended it, or all attempts
have failed; or the step was skipped. -/
inductive Ends (v : Visit) : Prop where
  | succeeded {failures : List Failure} {last : Attempt} {status : TaskStatus} :
      v.Consists failures [last] [.succeeded v.index status.durationMs] →
      failures.length < v.step.attempts → last.EndsAs (.succeeded status) → Ends v
  | errored {failures : List Failure} {last : Attempt} {error : SchedulerError} :
      v.Consists failures [last] [.errored v.index error] →
      failures.length < v.step.attempts → last.EndsAs (.errored error) → Ends v
  | exhausted {failures : List Failure} {last : Failure} :
      v.Consists failures [] [.gaveUp last.status.resultInfo] →
      failures.length = v.step.attempts → failures.getLast? = some last → Ends v
  | skipped : v.Consists [] [] [] → v.step.attempts = 0 → Ends v

/-- Whether the last line of a visit says that its step has succeeded. -/
def endsWell (v : Visit) : Bool := v.lines.getLast?.any TranscriptLine.tellsSuccess

theorem Consists.endsWell_eq {line : TranscriptLine} (h : v.Consists failures latest [line]) :
    v.endsWell = line.tellsSuccess := by
  rw [endsWell, h.lines, List.getLast?_concat, Option.any_some]

theorem Consists.endsWell_of_skipped (h : v.Consists [] [] []) : v.endsWell = false := by
  rw [endsWell, h.lines]
  rfl

/-- Only failures are followed by another attempt, and a step is attempted as often as it may be. -/
theorem Consists.bounds (h : v.Consists failures latest closing) (hlatest : latest.length ≤ 1)
    (hlength : failures.length + latest.length ≤ v.step.attempts) :
    v.attempts.length ≤ v.step.attempts ∧
      ∀ t ∈ v.attempts.dropLast, ∃ status, t.EndsAs (.failed status) := by
  have hfailed : ∀ t ∈ failures.map Failure.attempt, ∃ status, t.EndsAs (.failed status) := by
    intro t ht
    obtain ⟨f, -, rfl⟩ := List.mem_map.1 ht
    exact ⟨f.status, f.ended⟩
  rw [h.attempts]
  refine ⟨by simpa using hlength, fun t ht => hfailed t ?_⟩
  match latest, hlatest with
  | [], _ =>
    rw [List.append_nil] at ht
    exact List.dropLast_subset _ ht
  | [last], _ =>
    rw [List.dropLast_concat] at ht
    exact ht

/-! ### One answer -/

/-- The visit when it has come to these failures, this latest attempt and these last lines. -/
def continued (v : Visit) (failures : List Failure) (latest : List Attempt) (closing : List TranscriptLine) :
    Visit :=
  { v with attempts := failures.map Failure.attempt ++ latest, lines := v.opening failures ++ closing }

theorem consists_continued : (v.continued failures latest closing).Consists failures latest closing := ⟨rfl, rfl⟩

theorem opening_concat (v : Visit) (failures : List Failure) (f : Failure) :
    v.opening (failures ++ [f]) = v.opening failures ++
      [.failed v.index (failures.length + 1) v.step.attempts f.status.durationMs f.status.resultInfo] := by
  simp [opening, List.mapIdx_concat]

/-- What an answer makes of a visit and of its execution: the visit goes on, or it has ended and the pointer that its
last line selects is followed. -/
inductive Turns (v : Visit) (a : AgentAnswer) (r : PreparedRun) (before : List TranscriptLine) (e : Execution) :
    Prop where
  | goes (v' : Visit) {phase : ExecutionPhase} : v'.index = v.index → v'.step = v.step →
      v'.answers = v.answers ++ [a] → v'.Goes phase → e = ⟨r, before ++ v'.lines, phase⟩ →
      Turns v a r before e
  | ends (v' : Visit) : v'.index = v.index → v'.step = v.step → v'.answers = v.answers ++ [a] → v'.Ends →
      e = ((v'.step.pointer v'.endsWell).destination v'.index r.steps.length).reached r (before ++ v'.lines) →
      Turns v a r before e

variable {r : PreparedRun} {before : List TranscriptLine} {last : Attempt} {remoteId : Int}
  {report : Except SchedulerError TaskStatus} {e : Execution} {line : TranscriptLine}

/-- A visit that has come to its last line is left. -/
theorem turns_of_ends (v : Visit) (failures : List Failure) (latest : List Attempt) (line : TranscriptLine)
    (h : (v.continued failures latest [line]).Ends)
    (hanswers : (v.continued failures latest [line]).answers = v.answers ++ [a]) (hrun : e.run = r)
    (hlines : e.transcript = before ++ v.opening failures) :
    v.Turns a r before ((e.note line).leave v.index v.step line.tellsSuccess) := by
  refine .ends (v.continued failures latest [line]) rfl rfl hanswers h ?_
  rw [Execution.leave_eq, consists_continued.endsWell_eq, Execution.note, hrun, hlines, List.append_assoc]
  rfl

/-- The reply to the request of an attempt after the failures. -/
theorem Consists.turns_submitted (h : v.Consists failures [] []) (hlt : failures.length < v.step.attempts)
    (reply : Except SchedulerError Int) :
    v.Turns (.submitted reply) r before
      ((⟨r, before ++ v.lines, .submitting v.index v.step (failures.length + 1)⟩ : Execution).submitted
        reply) := by
  let t : Attempt := ⟨reply, []⟩
  have hanswers (closing : List TranscriptLine) :
      (v.continued failures [t] closing).answers = v.answers ++ [.submitted reply] := by
    simp [answers, continued, h.attempts, Attempt.answers, t]
  rw [h.lines, List.append_nil]
  cases reply with
  | error error =>
    exact v.turns_of_ends failures [t] (.errored v.index error) (.errored consists_continued hlt (.refused rfl))
      (hanswers _) rfl rfl
  | ok remoteId =>
    refine .goes (v.continued failures [t] []) rfl rfl (hanswers _)
      (.polling consists_continued hlt ⟨rfl, nofun⟩) ?_
    rw [continued, List.append_nil]
    rfl

/-- A visit after another report on its latest attempt. -/
theorem Consists.answers_hear {failures' : List Failure} {latest' : List Attempt}
    (h : v.Consists failures [last] closing)
    (hattempts : failures'.map Failure.attempt ++ latest' = failures.map Failure.attempt ++ [last.hear report])
    (closing' : List TranscriptLine) :
    (v.continued failures' latest' closing').answers = v.answers ++ [.polled report] := by
  simp [answers, continued, hattempts, h.attempts]

/-- A failed attempt is followed by another one unless it was the last that may be made. -/
theorem Consists.turns_failed {status : TaskStatus} (h : v.Consists failures [last] [])
    (hlt : failures.length < v.step.attempts) (hfailed : (last.hear (.ok status)).EndsAs (.failed status))
    (hresult : status.result = false) :
    v.Turns (.polled (.ok status)) r before
      ((⟨r, before ++ v.lines, .polling v.index v.step (failures.length + 1) remoteId⟩ : Execution).attempted
        v.index v.step (failures.length + 1) status) := by
  let f : Failure := ⟨last.hear (.ok status), status, hfailed⟩
  have hattempts : (failures ++ [f]).map Failure.attempt ++ [] =
      failures.map Failure.attempt ++ [last.hear (.ok status)] := by simp [f]
  have hlength : (failures ++ [f]).length = failures.length + 1 := List.length_append
  rw [h.lines, List.append_nil, Execution.attempted, hresult, if_neg Bool.false_ne_true]
  dsimp only
  split
  · next hmore =>
    rw [← hlength] at hmore ⊢
    refine .goes (v.continued (failures ++ [f]) [] []) rfl rfl (h.answers_hear hattempts _)
      (.submitting consists_continued hmore) ?_
    simp [continued, opening_concat, Execution.note, f]
  · next hno =>
    have hall : (failures ++ [f]).length = v.step.attempts := by omega
    refine v.turns_of_ends (failures ++ [f]) [] (.gaveUp status.resultInfo)
      (.exhausted consists_continued hall List.getLast?_concat) (h.answers_hear hattempts _) rfl ?_
    rw [opening_concat, ← List.append_assoc]
    rfl

/-- A report on the attempt that waits for one. -/
theorem Consists.turns_polled (h : v.Consists failures [last] []) (hlt : failures.length < v.step.attempts)
    (hwaits : last.Waits remoteId) (report : Except SchedulerError TaskStatus) :
    v.Turns (.polled report) r before
      ((⟨r, before ++ v.lines, .polling v.index v.step (failures.length + 1) remoteId⟩ : Execution).polled
        report) := by
  have hanswers (closing : List TranscriptLine) :
      (v.continued failures [last.hear report] closing).answers = v.answers ++ [.polled report] :=
    h.answers_hear rfl closing
  have hlines : v.lines = v.opening failures := by rw [h.lines, List.append_nil]
  rcases isPending_or_isReported remoteId report with hpending | ⟨result, hreported⟩
  · refine .goes (v.continued failures [last.hear report] []) rfl rfl (hanswers _)
      (.polling consists_continued hlt (hwaits.hear hpending)) ?_
    obtain ⟨status, rfl, hknown, hgoes⟩ := hpending
    simp [continued, hlines, Execution.polled, hknown, hgoes]
  have hends : (last.hear report).EndsAs result := .reported hwaits rfl hreported
  cases hreported with
  | @succeeded status hknown hended hresult =>
    simp only [Execution.polled, Execution.attempted, hknown, hended, hresult, Bool.not_true, Bool.false_eq_true,
      if_true, if_false]
    exact v.turns_of_ends failures [last.hear (.ok status)] (.succeeded v.index status.durationMs)
      (.succeeded consists_continued hlt hends) (hanswers _) rfl (congrArg (before ++ ·) hlines)
  | failed hknown hended hresult =>
    simpa [Execution.polled, hknown, hended] using h.turns_failed hlt hends hresult
  | @unknown status hunknown =>
    simp only [Execution.polled, Execution.abandon, hunknown, Bool.not_false, if_true]
    exact v.turns_of_ends failures [last.hear (.ok status)] (.errored v.index _)
      (.errored consists_continued hlt hends) (hanswers _) rfl (congrArg (before ++ ·) hlines)
  | @lost error =>
    exact v.turns_of_ends failures [last.hear (.error error)] (.errored v.index error)
      (.errored consists_continued hlt hends) (hanswers _) rfl (congrArg (before ++ ·) hlines)

theorem Goes.turns (h : v.Goes phase) (ha : phase.Awaits a) :
    v.Turns a r before ((⟨r, before ++ v.lines, phase⟩ : Execution).take a) := by
  cases h with
  | submitting h hlt =>
    cases ha with
    | reply => exact h.turns_submitted hlt _
  | polling h hlt hwaits =>
    cases ha with
    | report => exact h.turns_polled hlt hwaits _
  | overflowed => cases ha

theorem Goes.bounds (h : v.Goes phase) : v.attempts.length ≤ v.step.attempts ∧
    ∀ t ∈ v.attempts.dropLast, ∃ status, t.EndsAs (.failed status) := by
  cases h with
  | submitting h hlt => exact h.bounds (Nat.zero_le 1) hlt.le
  | polling h hlt _ => exact h.bounds (Nat.le_refl 1) hlt
  | overflowed h _ => exact h.bounds (Nat.zero_le 1) (Nat.zero_le _)

theorem Ends.bounds (h : v.Ends) : v.attempts.length ≤ v.step.attempts ∧
    ∀ t ∈ v.attempts.dropLast, ∃ status, t.EndsAs (.failed status) := by
  cases h with
  | succeeded h hlt _ | errored h hlt _ => exact h.bounds (Nat.le_refl 1) hlt
  | exhausted h hall _ => exact h.bounds (Nat.zero_le 1) hall.le
  | skipped h _ => exact h.bounds (Nat.zero_le 1) (Nat.zero_le _)

theorem Consists.not_succeeded (h : v.Consists failures latest closing)
    (hlatest : ∀ t ∈ latest, ∀ status, ¬t.EndsAs (.succeeded status)) :
    ∀ t ∈ v.attempts, ∀ status, ¬t.EndsAs (.succeeded status) := by
  intro t ht status hended
  rw [h.attempts] at ht
  rcases List.mem_append.1 ht with ht | ht
  · obtain ⟨f, -, rfl⟩ := List.mem_map.1 ht
    cases f.ended.unique hended
  · exact hlatest t ht status hended

/-- A visit tells that its step has succeeded if and only if one of its attempts has. -/
theorem Ends.endsWell_iff (h : v.Ends) :
    v.endsWell ↔ ∃ t ∈ v.attempts, ∃ status, t.EndsAs (.succeeded status) := by
  cases h with
  | @succeeded failures last status h _ hended =>
    have hmem : last ∈ v.attempts := by simp [h.attempts]
    exact iff_of_true h.endsWell_eq ⟨last, hmem, status, hended⟩
  -- the other ways end without an attempt that has succeeded
  | @errored failures last error h _ hended =>
    refine iff_of_false (ne_true_of_eq_false h.endsWell_eq) ?_
    rintro ⟨t, ht, status, hsucceeded⟩
    refine h.not_succeeded (fun u hu status hu' => ?_) t ht status hsucceeded
    rw [List.mem_singleton.1 hu] at hu'
    cases hended.unique hu'
  | exhausted h _ _ =>
    refine iff_of_false (ne_true_of_eq_false h.endsWell_eq) ?_
    rintro ⟨t, ht, status, hsucceeded⟩
    exact h.not_succeeded (List.forall_mem_nil _) t ht status hsucceeded
  | skipped h _ =>
    refine iff_of_false (ne_true_of_eq_false h.endsWell_of_skipped) ?_
    rintro ⟨t, ht, status, hsucceeded⟩
    exact h.not_succeeded (List.forall_mem_nil _) t ht status hsucceeded

end Visit

/-! ### One visit after the other -/

/-- Whether a run is visited so, one visit after the other, and then the flow goes to this destination: the last line
of a visit selects the pointer that is followed. -/
inductive Leads (r : PreparedRun) : List Visit → Destination → Prop where
  | start : Leads r [] (.step 1)
  | visit {past : List Visit} {v : Visit} : Leads r past (.step v.index) → r.stepAt? v.index = some v.step →
      v.Ends → Leads r (past ++ [v]) ((v.step.pointer v.endsWell).destination v.index r.steps.length)

/-- Whether an execution has made these visits and is at this one, and its transcript is what they tell; after the
last one the run has ended, and if the flow has gone to a step that does not exist, the transcript says so. -/
inductive Retraces (r : PreparedRun) (past : List Visit) : Option Visit → Execution → Prop where
  | visiting {v : Visit} {phase : ExecutionPhase} : Leads r past (.step v.index) →
      r.stepAt? v.index = some v.step → v.Goes phase →
      Retraces r past (some v) ⟨r, past.flatMap Visit.lines ++ v.lines, phase⟩
  | ended {result : RunResult} : Leads r past (.finish result) →
      Retraces r past none ⟨r, past.flatMap Visit.lines, .ended result⟩
  | astray {index : Nat} : Leads r past (.step index) → r.stepAt? index = none →
      Retraces r past none ⟨r, past.flatMap Visit.lines ++ [.noStep index], .ended .fail⟩

variable {r : PreparedRun} {past : List Visit} {current : Option Visit} {v : Visit} {e : Execution}
  {a : AgentAnswer} {d : Destination}

theorem Leads.ends (h : Leads r past d) : ∀ v ∈ past, r.stepAt? v.index = some v.step ∧ v.Ends := by
  induction h with
  | start => exact List.forall_mem_nil _
  | visit _ hstep hends ih =>
    intro v hv
    rcases List.mem_append.1 hv with hv | hv
    · exact ih v hv
    · cases List.mem_singleton.1 hv
      exact ⟨hstep, hends⟩

theorem Retraces.leads (h : Retraces r past current e) : ∃ d, Leads r past d := by
  cases h with
  | visiting h _ _ | ended h | astray h _ => exact ⟨_, h⟩

theorem Retraces.bounds (h : Retraces r past current e) : ∀ v ∈ past ++ current.toList,
    r.stepAt? v.index = some v.step ∧ v.attempts.length ≤ v.step.attempts ∧
      ∀ t ∈ v.attempts.dropLast, ∃ status, t.EndsAs (.failed status) := by
  intro v hv
  rcases List.mem_append.1 hv with hv | hv
  · obtain ⟨d, hleads⟩ := h.leads
    obtain ⟨hstep, hends⟩ := hleads.ends v hv
    exact ⟨hstep, hends.bounds⟩
  · cases h with
    | visiting _ hstep hgoes =>
      cases List.mem_singleton.1 hv
      exact ⟨hstep, hgoes.bounds⟩
    | ended | astray => cases hv

/-- The execution that has come to where the visits lead to. -/
theorem Leads.reached (h : Leads r past d) :
    ∃ current, Retraces r past current (d.reached r (past.flatMap Visit.lines)) ∧
      current.toList.flatMap Visit.answers = [] := by
  cases d with
  | finish result => exact ⟨none, .ended h, rfl⟩
  | step index =>
    rw [Destination.reached, Execution.enter]
    dsimp only
    split
    · next hnone => exact ⟨none, .astray h hnone, rfl⟩
    · next step hstep =>
      let v : Visit := { index, step }
      have hopened : v.Consists [] [] [] := ⟨rfl, rfl⟩
      refine ⟨some v, .visiting h hstep ?_, rfl⟩
      rw [Execution.firstPhase]
      split
      · next hnone => exact .overflowed hopened hnone
      · next hsome => exact .submitting hopened (Nat.pos_of_ne_zero hsome)

/-- One more answer. -/
theorem Retraces.take (h : Retraces r past current e) (ha : e.phase.Awaits a) :
    ∃ past' current', Retraces r past' current' (e.take a) ∧
      (past' ++ current'.toList).flatMap Visit.answers =
        (past ++ current.toList).flatMap Visit.answers ++ [a] := by
  cases h with
  | @visiting v phase hleads hstep hgoes =>
    have hturns : v.Turns a r (past.flatMap Visit.lines) _ := hgoes.turns ha
    cases hturns with
    | goes v' hindex hstep' hanswers hgoes' heq =>
      rw [heq]
      refine ⟨past, some v', .visiting (by rwa [hindex]) (by rwa [hindex, hstep']) hgoes', ?_⟩
      simp [hanswers]
    | ends v' hindex hstep' hanswers hends heq =>
      -- the visit joins those before it, and the flow goes where its last line says
      rw [heq]
      have hleads' := Leads.visit (by rwa [hindex]) (by rwa [hindex, hstep']) hends
      obtain ⟨current', hretraces, hnone⟩ := hleads'.reached
      rw [List.flatMap_append, List.flatMap_singleton] at hretraces
      refine ⟨past ++ [v'], current', hretraces, ?_⟩
      simp [hanswers, hnone]
  | ended | astray => cases ha

/-- A step whose number of attempts has overflowed is skipped. -/
theorem Retraces.skip {index : Nat} {step : PreparedStep} (h : Retraces r past current e)
    (hphase : e.phase = .overflowed index step) :
    ∃ past' current', Retraces r past' current' e.skip ∧
      (past' ++ current'.toList).flatMap Visit.answers = (past ++ current.toList).flatMap Visit.answers := by
  cases h with
  | @visiting v _ hleads hstep hgoes =>
    cases hgoes with
    | submitting | polling => cases hphase
    | overflowed hopened hnone =>
      obtain ⟨current', hretraces, hanswers⟩ := (hleads.visit hstep (.skipped hopened hnone)).reached
      rw [List.flatMap_append, List.flatMap_singleton, hopened.endsWell_of_skipped] at hretraces
      refine ⟨past ++ [v], current', ?_, by simp [hanswers]⟩
      rw [Execution.skip_of_overflowed rfl, Execution.leave_eq]
      exact hretraces
  | ended | astray => cases hphase

/-! ### Executions -/

namespace AgentBehaviour

variable {σ : Type} (b : AgentBehaviour σ)

theorem retraces_converse (r : PreparedRun) (s : σ) (n : Nat) :
    ∃ past current, Retraces r past current (b.converse r s n).execution ∧
      (b.converse r s n).answers = (past ++ current.toList).flatMap Visit.answers := by
  induction n with
  | zero =>
    have hstart : Leads r [] (.step 1) := .start
    obtain ⟨current, hretraces, hnone⟩ := hstart.reached
    exact ⟨[], current, hretraces, hnone.symm⟩
  | succ n ih =>
    rw [converse]
    rcases b.answer_cases (b.converse r s n) with
      ⟨-, hsame⟩ | ⟨⟨index, step, hphase⟩, hnext⟩ | ⟨a, s', ha, hnext⟩
    · rw [hsame]
      exact ih
    · obtain ⟨past, current, hretraces, hanswers⟩ := ih
      obtain ⟨past', current', hretraces', hanswers'⟩ := hretraces.skip hphase
      rw [hnext]
      exact ⟨past', current', hretraces', by rw [hanswers, hanswers']⟩
    · obtain ⟨past, current, hretraces, hanswers⟩ := ih
      obtain ⟨past', current', hretraces', hanswers'⟩ := hretraces.take ha
      rw [hnext]
      exact ⟨past', current', hretraces', by rw [hanswers, hanswers']⟩

/-- Whatever the agents do, an execution has made visits that its transcript retraces and that take up the answers one
for one. A visit makes at most one attempt more than its step may be retried, as many as that if all fail and the
number fits in 32 bits, and another one only after a failure. When it has ended, its last line, by which the flow
goes on, says that the step has succeeded if and only if one of the attempts has. -/
theorem visits_told (r : PreparedRun) (s : σ) (n : Nat) :
    let c := b.converse r s n
    ∃ past current, Retraces r past current c.execution ∧
      c.answers = (past ++ current.toList).flatMap Visit.answers ∧
      (∀ v ∈ past ++ current.toList, r.stepAt? v.index = some v.step ∧
        v.attempts.length ≤ v.step.retry + 1 ∧
        (v.step.retry + 1 < Word.nat32End → v.step.attempts = v.step.retry + 1) ∧
        ∀ t ∈ v.attempts.dropLast, ∃ status, t.EndsAs (.failed status)) ∧
      ∀ v ∈ past, v.Ends ∧ (v.endsWell ↔ ∃ t ∈ v.attempts, ∃ status, t.EndsAs (.succeeded status)) := by
  intro c
  obtain ⟨past, current, hretraces, hanswers⟩ := b.retraces_converse r s n
  obtain ⟨d, hleads⟩ := hretraces.leads
  refine ⟨past, current, hretraces, hanswers, fun v hv => ?_, fun v hv => ?_⟩
  · obtain ⟨hstep, hle, hfailed⟩ := hretraces.bounds v hv
    exact ⟨hstep, hle.trans v.step.attempts_le, PreparedStep.attempts_of_lt, hfailed⟩
  obtain ⟨-, hends⟩ := hleads.ends v hv
  exact ⟨hends, hends.endsWell_iff⟩

end AgentBehaviour

end FlowScheduler
