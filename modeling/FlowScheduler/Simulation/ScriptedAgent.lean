import FlowScheduler.Execution.Flow

/-!
An agent that follows a script: for each command or URL, what becomes of the requests for it one after
the other. Once the script of a key is used up, tasks are accepted and end well at once, unless the agent
says otherwise.
-/

namespace FlowScheduler

/-- What becomes of one request. -/
inductive ScriptedAttempt where
  | refuse (error : SchedulerError)
  /-- The task is accepted; the answers to the questions for its status. -/
  | accept (polls : List (Except SchedulerError TaskStatus))

/-- A task that was accepted. -/
structure AcceptedTask where
  remoteId : Int
  key : String
  /-- The answers that are left. -/
  polls : List (Except SchedulerError TaskStatus)

/-- A request that was answered. -/
structure Submission where
  agentId : Int
  request : TaskRequest
  /-- The id of the task; absent if the request was refused. -/
  remoteId : Option Int
  deriving DecidableEq, Repr

/-- The state of a scripted agent. -/
structure ScriptedAgent where
  /-- What is left of the script of each key. -/
  script : List (String × List ScriptedAttempt) := []
  /-- What becomes of a request when the script of its key is used up. -/
  otherwise : ScriptedAttempt := .accept []
  /-- The keys whose tasks do not end for now. -/
  held : List String := []
  /-- How many requests have been made. -/
  requests : Nat := 0
  accepted : List AcceptedTask := []
  submissions : List Submission := []

/-- How a task ends where the script does not say. -/
def TaskStatus.endedWell : TaskStatus :=
  { onRegister := true, terminated := true, result := true, resultInfo := "exit 0", durationMs := 5 }

namespace ScriptedAgent

/-- How many requests are answered; the next one waits forever. -/
def maxRequests : Nat := 500

/-- Begins a request: whether it will be answered. -/
def begin (a : ScriptedAgent) : ScriptedAgent × Bool :=
  ({ a with requests := a.requests + 1 }, a.requests < maxRequests)

/-- The first attempt of a key, if one is left, and the script without it. -/
def takeAttempt (key : String) :
    List (String × List ScriptedAttempt) →
      Option ScriptedAttempt × List (String × List ScriptedAttempt)
  | [] => (none, [])
  | (k, attempts) :: rest =>
    if k = key then (attempts.head?, (k, attempts.tail) :: rest)
    else
      let (attempt, rest) := takeAttempt key rest
      (attempt, (k, attempts) :: rest)

/-- Answers a request. -/
def submit (a : ScriptedAgent) (agentId : Int) (request : TaskRequest) :
    ScriptedAgent × Except SchedulerError Int :=
  let (attempt, script) := takeAttempt request.key a.script
  match attempt.getD a.otherwise with
  | .refuse error =>
    ({ a with script, submissions := a.submissions ++ [⟨agentId, request, none⟩] }, .error error)
  | .accept polls =>
    let remoteId : Int := a.accepted.length + 1
    ({ a with
        script
        accepted := a.accepted ++ [⟨remoteId, request.key, polls⟩]
        submissions := a.submissions ++ [⟨agentId, request, some remoteId⟩] }, .ok remoteId)

/-- Answers the question for the status of a task. -/
def poll (a : ScriptedAgent) (remoteId : Int) : ScriptedAgent × Except SchedulerError TaskStatus :=
  match a.accepted.find? (·.remoteId == remoteId) with
  | none => (a, .ok { id := remoteId })
  | some t =>
    if t.key ∈ a.held then (a, .ok { onRegister := true })
    else match t.polls with
      | [] => (a, .ok .endedWell)
      | answer :: polls =>
        ({ a with accepted := a.accepted.map fun o =>
            if o.remoteId = remoteId then { o with polls } else o }, answer)

/-- Holds the tasks of a key. -/
def hold (a : ScriptedAgent) (key : String) : ScriptedAgent := { a with held := key :: a.held }

/-- Lets the tasks of a key go on. -/
def release (a : ScriptedAgent) (key : String) : ScriptedAgent :=
  { a with held := a.held.filter (· != key) }

/-- The requests answered so far, and the agent with its record of them cleared. -/
def takeSubmissions (a : ScriptedAgent) : ScriptedAgent × List Submission :=
  ({ a with submissions := [] }, a.submissions)

end ScriptedAgent

namespace Execution

/-- Answers the request that an execution waits with, or asks for the status that it waits for; a step whose
number of attempts has overflowed is skipped. `none` if the run has ended. -/
def serve (e : Execution) (a : ScriptedAgent) : Option (Execution × ScriptedAgent) :=
  match e.phase with
  | .submitting _ step _ =>
    let (a, answer) := a.submit step.agent.id (e.request step)
    some (e.submitted answer, a)
  | .polling _ _ _ remoteId =>
    let (a, answer) := a.poll remoteId
    some (e.polled answer, a)
  | .overflowed .. => some (e.skip, a)
  | .ended _ => none

end Execution

/-- An execution that a scripted agent has served for some time. -/
structure ServedExecution where
  execution : Execution
  agent : ScriptedAgent
  /-- How often a status was asked for. -/
  polls : Nat

/-- Serves an execution until it ends, waits forever, or has asked for a status `polls` times; `fuel`
bounds the number of answers and skipped steps. -/
def ServedExecution.run : (fuel polls : Nat) → ServedExecution → ServedExecution
  | 0, _, s => s
  | fuel + 1, polls, s =>
    match s.execution.phase with
    | .ended _ => s
    | .submitting .. =>
      let (agent, answered) := s.agent.begin
      if answered then
        match s.execution.serve agent with
        | some (execution, agent) => run fuel polls { s with execution, agent }
        | none => s
      else { s with agent }
    | .overflowed .. =>
      match s.execution.serve s.agent with
      | some (execution, agent) => run fuel polls { s with execution, agent }
      | none => s
    | .polling .. =>
      if polls ≤ s.polls then s
      else
        match s.execution.serve s.agent with
        | some (execution, agent) => run fuel polls ⟨execution, agent, s.polls + 1⟩
        | none => s

/-- Serves the execution of a run from its beginning, for so many questions for a status. -/
def PreparedRun.serve (r : PreparedRun) (a : ScriptedAgent) (polls : Nat) : ServedExecution :=
  ServedExecution.run (polls + ScriptedAgent.maxRequests + 1) polls ⟨.start r, a, 0⟩

end FlowScheduler
