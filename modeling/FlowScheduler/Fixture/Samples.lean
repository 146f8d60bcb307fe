import FlowScheduler.Recurrence.Schedule
import FlowScheduler.Run.Prepared

/-!
Sample entities, complete and sound, to be varied as a test needs.
-/

namespace FlowScheduler

namespace Agent

/-- A sample agent. -/
def sample (id : Int) : Agent where
  id
  host := "http://agent-" ++ toString id ++ ".test:8080"
  apiKey := "test-key"

end Agent

namespace Task

/-- A sample task of some kind, which agent 1 may execute. -/
def sample (id : Int) (kind : TaskKind) : Task where
  id
  name := "task-" ++ toString id
  kind
  timeoutMs := 60000
  execOn := [1]

/-- The task with other arguments; only commands have any. -/
def withArgs (t : Task) (args : List String) : Task :=
  match t.kind with
  | .command cmd _ startIn => { t with kind := .command cmd args startIn }
  | .urlCheck _ => t

end Task

namespace Queue

/-- A sample queue with one slot. -/
def sample (id : Int) : Queue where
  id
  name := "queue-" ++ toString id
  slot := 1
  maxSize := 0

/-- The queue paused at an instant. -/
def pause (q : Queue) (since : Instant) : Queue := { q with paused := true, pausedSince := some since }

end Queue

namespace TaskFlow

/-- A sample flow without steps, which is active and may be launched by hand. -/
def sample (id : Int) : TaskFlow where
  id
  name := "flow-" ++ toString id
  active := true
  manualLaunch := true
  steps := []

/-- The flow with one more step. -/
def addStep (f : TaskFlow) (taskId : Int) (onOk : NextStep := .sequential)
    (onFail : NextStep := .fail) (retry : Nat := 0) : TaskFlow :=
  { f with steps := f.steps ++ [
      { index := f.steps.length + 1, taskId, nextOnOk := onOk, nextOnFail := onFail, retry }] }

/-- The flow with a named argument. -/
def addArg (f : TaskFlow) (name value : String) : TaskFlow :=
  { f with namedArgs := f.namedArgs.insert name value }

end TaskFlow

namespace Schedule

/-- A sample schedule without rules. -/
def sample (id : Int) : Schedule where
  id
  name := "schedule-" ++ toString id
  timeZone := "UTC"
  rules := []

/-- The schedule with one more rule. -/
def addRule (s : Schedule) (rule : RuleDefinition) : Schedule := { s with rules := s.rules ++ [rule] }

/-- The schedule with a rule for fixed times of every day. -/
def addTimes (s : Schedule) (hours : String) : Schedule := s.addRule { hours }

/-- The schedule with a rule for an interval of seconds. -/
def addInterval (s : Schedule) (seconds : Int) : Schedule := s.addRule { interval := seconds }

end Schedule

namespace PreparedRun

/-- A sample run without steps, launched by hand at an instant. -/
def sample (flowId : Int) (launchedAt : Instant) : PreparedRun :=
  { ofTrigger flowId ("flow-" ++ toString flowId) (.manual "tester" (.utc launchedAt)) with
    queueName := Queue.directName }

/-- The run bound to a queue. -/
def inQueue (r : PreparedRun) (queueId : Int) : PreparedRun :=
  { r with queueId, queueName := "queue-" ++ toString queueId }

/-- The run with one more step. -/
def addStep (r : PreparedRun) (task : Task) (agent : Agent) (onOk : NextStep := .sequential)
    (onFail : NextStep := .fail) (retry : Nat := 0) : PreparedRun :=
  { r with steps := r.steps ++ [
      { index := r.steps.length + 1, task, agent, nextOnOk := onOk, nextOnFail := onFail, retry }] }

/-- The run with a named argument and the key that the arguments give it. -/
def addArg (r : PreparedRun) (name value : String) : PreparedRun :=
  r.withArgs (r.namedArgs.insert name value)

end PreparedRun

end FlowScheduler
