import FlowScheduler.Argument.NamedTag
import FlowScheduler.Entity.Basic

/-!
Prepared runs: one launch of a task flow with everything that it needs.
-/

namespace FlowScheduler

/-- The states of a run. -/
inductive RunState where
  | new | queued | inProgress | terminated
  deriving DecidableEq, Repr

namespace RunState

/-- Whether the run has ended. -/
def isTerminal : RunState → Bool
  | terminated => true
  | _ => false

/-- Whether the run waits to be started. -/
def isPending : RunState → Bool
  | new | queued => true
  | _ => false

/-- The name of a state. -/
def label : RunState → String
  | new => "New" | queued => "Queued" | inProgress => "InProgress" | terminated => "Terminated"

/-- All states. -/
def all : List RunState := [new, queued, inProgress, terminated]

end RunState

/-- What launches a run. -/
inductive Trigger where
  /-- A schedule, at the planned time in its zone. -/
  | scheduled (scheduleId : Int) (plannedAt : OffsetTime)
  /-- A person. -/
  | manual (actor : String) (requestedAt : OffsetTime)
  deriving DecidableEq, Repr

namespace Trigger

/-- Whether a person launched the run. -/
def isManual : Trigger → Bool
  | manual .. => true
  | scheduled .. => false

/-- The time that date tags refer to. -/
def reference : Trigger → OffsetTime
  | scheduled _ plannedAt => plannedAt
  | manual _ requestedAt => requestedAt

/-- A description of the trigger. -/
def sourceLabel : Trigger → String
  | scheduled id _ => "Schedule ID " ++ toString id
  | manual actor _ => "Manual launch by " ++ actor

end Trigger

/-- A step with its task and the agent that was chosen for it. -/
structure PreparedStep where
  index : Nat
  task : Task
  agent : Agent
  nextOnOk : NextStep
  nextOnFail : NextStep
  retry : Nat
  deriving DecidableEq, Repr

/-- One launch of a task flow. -/
structure PreparedRun where
  /-- The number that the worker gives the run on submission. -/
  seq : Nat
  flowId : Int
  flowName : String
  /-- The key that no two active runs share. -/
  identity : String
  launchSource : String
  reference : OffsetTime
  namedArgs : NamedArgs
  errorManagement : Int
  steps : List PreparedStep
  queueId : Int
  queueName : String
  state : RunState
  startedAt : Option Instant
  stoppedAt : Option Instant
  result : RunResult
  resultMessage : String
  /-- Why the run cannot be launched; no agent is asked then. -/
  cannotLaunch : Option String
  deriving DecidableEq, Repr

namespace PreparedRun

/-- A new run of a flow without steps and arguments. -/
def ofTrigger (flowId : Int) (flowName : String) (trigger : Trigger) : PreparedRun where
  seq := 0
  flowId
  flowName
  identity := identityKey flowId {}
  launchSource := trigger.sourceLabel
  reference := trigger.reference
  namedArgs := {}
  errorManagement := 0
  steps := []
  queueId := 0
  queueName := ""
  state := .new
  startedAt := none
  stoppedAt := none
  result := .unknown
  resultMessage := ""
  cannotLaunch := none

/-- The run marked as one that cannot be launched. -/
def reject (r : PreparedRun) (reason : String) : PreparedRun :=
  { r with result := .fail, resultMessage := reason, cannotLaunch := some reason }

/-- The run with named arguments and the key that they give it. -/
def withArgs (r : PreparedRun) (args : NamedArgs) : PreparedRun :=
  { r with namedArgs := args, identity := identityKey r.flowId args }

/-- The flow's name and the run's key. -/
def label (r : PreparedRun) : String := r.flowName ++ " (" ++ r.identity ++ ")"

/-- The milliseconds that the run has taken by `now`, once it was started. -/
def durationMs (r : PreparedRun) (now : Instant) : Option Int :=
  r.startedAt.map fun started => (r.stoppedAt.getD now).millisSince started

/-- What is kept of the run. -/
def outcome (r : PreparedRun) : RunOutcome := ⟨r.startedAt, r.stoppedAt, r.result, r.resultMessage⟩

end PreparedRun

end FlowScheduler
