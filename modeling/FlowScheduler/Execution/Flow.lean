import FlowScheduler.AgentApi.Protocol
import FlowScheduler.Error
import FlowScheduler.Run.Prepared
import FlowScheduler.Word

/-!
The execution of a run, step by step.

An execution is a machine that talks to agents: in each phase it waits for one answer, either to the
request to execute a task or to the question how the task is doing, and the answer brings it to the next
phase. A step is attempted once and as often again as its retry count says; then the step's pointers
tell where the flow goes. The transcript records what happened.

The number of attempts is a word of 32 bits. At the greatest retry count the sum overflows, and there the
execution breaks off or makes no attempt, as the arithmetic is checked or wraps.
-/

namespace FlowScheduler

/-- An entry of a transcript. -/
inductive TranscriptLine where
  /-- The flow went to a step that does not exist. -/
  | noStep (index : Nat)
  | started (index : Nat) (taskName : String)
  /-- An error ended the step. -/
  | errored (index : Nat) (error : SchedulerError)
  | succeeded (index : Nat) (durationMs : Int)
  /-- One attempt failed. -/
  | failed (index attempt attempts : Nat) (durationMs : Int) (info : String)
  /-- All attempts failed. -/
  | gaveUp (info : String)
  deriving DecidableEq, Repr

/-- The wording of an entry. -/
def TranscriptLine.message : TranscriptLine → String
  | noStep index => "Invalid next step " ++ toString index
  | started index taskName => "Start step " ++ toString index ++ " : " ++ taskName
  | errored index error => "Step " ++ toString index ++ " error : " ++ error.message
  | succeeded index durationMs =>
    "Step " ++ toString index ++ " terminated, duration : " ++ toString durationMs ++ "ms"
  | failed index attempt attempts durationMs info =>
    "Step " ++ toString index ++ " failed (attempt " ++ toString attempt ++ "/" ++
      toString attempts ++ "), duration : " ++ toString durationMs ++ "ms : " ++ info
  | gaveUp info => "task fail : " ++ info

/-- How a run ended. -/
structure FlowOutcome where
  result : RunResult
  /-- One entry a line. -/
  transcript : String
  deriving DecidableEq, Repr

/-- What an execution waits for. -/
inductive ExecutionPhase where
  /-- The agent's answer to the request of an attempt at a step. -/
  | submitting (index : Nat) (step : PreparedStep) (attempt : Nat)
  /-- The status of a task that the agent has accepted. -/
  | polling (index : Nat) (step : PreparedStep) (attempt : Nat) (remoteId : Int)
  /-- Nothing: the number of attempts at the step has overflowed. Checked arithmetic ends the execution here,
  without an outcome; with arithmetic that wraps the step is skipped. -/
  | overflowed (index : Nat) (step : PreparedStep)
  /-- Nothing; the run has ended. -/
  | ended (result : RunResult)
  deriving DecidableEq, Repr

/-- The execution of a run. -/
structure Execution where
  run : PreparedRun
  transcript : List TranscriptLine
  phase : ExecutionPhase
  deriving DecidableEq, Repr

/-- The step with an index, from 1. -/
def PreparedRun.stepAt? (r : PreparedRun) (index : Nat) : Option PreparedStep :=
  if index = 0 then none else r.steps[index - 1]?

/-- How often a step is attempted at most, in 32 bits; none stands for a number that does not fit. -/
def PreparedStep.attempts (s : PreparedStep) : Nat := Word.wrapNat32 (s.retry + 1)

theorem PreparedStep.attempts_le (s : PreparedStep) : s.attempts ≤ s.retry + 1 := Word.wrapNat32_le _

theorem PreparedStep.attempts_of_lt {s : PreparedStep} (h : s.retry + 1 < Word.nat32End) :
    s.attempts = s.retry + 1 :=
  Word.wrapNat32_of_lt h

namespace Execution

/-- The execution with one more entry in its transcript. -/
def note (e : Execution) (line : TranscriptLine) : Execution :=
  { e with transcript := e.transcript ++ [line] }

/-- The execution after the run has ended. -/
def finish (e : Execution) (result : RunResult) : Execution := { e with phase := .ended result }

/-- What an execution waits for at the beginning of a step. -/
def firstPhase (index : Nat) (step : PreparedStep) : ExecutionPhase :=
  if step.attempts = 0 then .overflowed index step else .submitting index step 1

/-- The execution at the beginning of a step; the run fails if there is no such step. -/
def enter (e : Execution) (index : Nat) : Execution :=
  match e.run.stepAt? index with
  | none => (e.note (.noStep index)).finish .fail
  | some step =>
    { e.note (.started index step.task.name) with phase := firstPhase index step }

/-- The execution at its beginning. -/
def start (r : PreparedRun) : Execution :=
  enter { run := r, transcript := [], phase := .ended .unknown } 1

/-- Follows the pointer of a step that was left. -/
def follow (e : Execution) (index : Nat) : NextStep → Execution
  | .fail => e.finish .fail
  | .sequential => if e.run.steps.length ≤ index then e.finish .ok else e.enter (index + 1)
  | .goto target => e.enter target

/-- Leaves a step that succeeded or failed. -/
def leave (e : Execution) (index : Nat) (step : PreparedStep) (succeeded : Bool) : Execution :=
  e.follow index (if succeeded then step.nextOnOk else step.nextOnFail)

/-- Leaves a step because of an error. -/
def abandon (e : Execution) (index : Nat) (step : PreparedStep) (error : SchedulerError) :
    Execution :=
  (e.note (.errored index error)).leave index step false

/-- Leaves a step whose number of attempts has overflowed as one that failed, without an attempt. -/
def skip (e : Execution) : Execution :=
  match e.phase with
  | .overflowed index step => e.leave index step false
  | _ => e

/-- The request of a step. -/
def request (e : Execution) (step : PreparedStep) : TaskRequest :=
  step.task.toRequest e.run.namedArgs

/-- Takes in the answer to a request: the id of the accepted task, or an error. -/
def submitted (e : Execution) (answer : Except SchedulerError Int) : Execution :=
  match e.phase with
  | .submitting index step attempt =>
    match answer with
    | .error error => e.abandon index step error
    | .ok remoteId => { e with phase := .polling index step attempt remoteId }
  | _ => e

/-- Takes in the final status of an attempt. -/
def attempted (e : Execution) (index : Nat) (step : PreparedStep) (attempt : Nat)
    (status : TaskStatus) : Execution :=
  if status.result then (e.note (.succeeded index status.durationMs)).leave index step true
  else
    let e := e.note (.failed index attempt step.attempts status.durationMs status.resultInfo)
    if attempt < step.attempts then { e with phase := .submitting index step (attempt + 1) }
    else (e.note (.gaveUp status.resultInfo)).leave index step false

/-- Takes in the answer to the question for a status. A task that the agent does not know is an
error. -/
def polled (e : Execution) (answer : Except SchedulerError TaskStatus) : Execution :=
  match e.phase with
  | .polling index step attempt remoteId =>
    match answer with
    | .error error => e.abandon index step error
    | .ok status =>
      if !status.onRegister then
        e.abandon index step (.agentProtocol ("unknown id " ++ toString remoteId))
      else if status.terminated then e.attempted index step attempt status
      else e
  | _ => e

/-- The outcome, once the run has ended. -/
def outcome? (e : Execution) : Option FlowOutcome :=
  match e.phase with
  | .ended result => some ⟨result, Text.joinWith "\n" (e.transcript.map TranscriptLine.message)⟩
  | _ => none

end Execution

end FlowScheduler
