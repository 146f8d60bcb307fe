import FlowScheduler.AgentApi.Codec
import FlowScheduler.Fixture.Samples
import FlowScheduler.Fixture.StubAgent
import FlowScheduler.Run.Codec

/-!
Samples in documents: a variation has a name and one or two values, and every kind of sample knows the
variations that make sense for it.
-/

namespace FlowScheduler

open Document Decode

/-- A variation of a sample. -/
structure Variation where
  name : String
  value : Value := .null
  second : Value := .null

namespace Agent

/-- The agent with a variation. -/
def vary? (a : Agent) (v : Variation) : Option Agent :=
  match v.name with
  | "host" => do return { a with host := ← text v.value }
  | "api_key" => do return { a with apiKey := ← text v.value }
  | "insecure" => some { a with insecure := true }
  | "deleted" => some { a with deleted := true }
  | _ => none

end Agent

namespace Task

/-- The task with a variation. -/
def vary? (t : Task) (v : Variation) : Option Task :=
  match v.name with
  | "name" => do return { t with name := ← text v.value }
  | "args" => do return t.withArgs (← list text v.value)
  | "exec_on" => do return { t with execOn := ← list int64 v.value }
  | _ => none

end Task

namespace Queue

/-- The queue with a variation; `now` is when it is paused. -/
def vary? (now : Instant) (q : Queue) (v : Variation) : Option Queue :=
  match v.name with
  | "name" => do return { q with name := ← text v.value }
  | "slot" => do return { q with slot := ← int32 v.value }
  | "max_size" => do return { q with maxSize := ← int32 v.value }
  | "paused" => some (q.pause now)
  | _ => none

end Queue

/-- Where a step goes and how often it is tried again. -/
structure StepPointers where
  onOk : NextStep := .sequential
  onFail : NextStep := .fail
  retry : Nat := 0

/-- The pointers that a document denotes. -/
def StepPointers.ofValue? : Decoder StepPointers := fun v => do
  let s ← slots .json ["ok", "fail", "retry"] v
  return {
    onOk := ← NextStep.ofCode? (← s.get "ok" int32 0)
    onFail := ← NextStep.ofCode? (← s.get "fail" int32 0)
    retry := ← s.get "retry" nat32 0 }

namespace TaskFlow

/-- The flow with a variation. -/
def vary? (f : TaskFlow) (v : Variation) : Option TaskFlow :=
  match v.name with
  | "name" => do return { f with name := ← text v.value }
  | "step" => do return f.addStep (← int64 v.value)
  | "step_with" => do
    let p ← StepPointers.ofValue? v.second
    return f.addStep (← int64 v.value) p.onOk p.onFail p.retry
  | "queue" => do return { f with queueId := ← int64 v.value }
  | "schedule" => do return { f with scheduleId := ← int64 v.value }
  | "manual_launch" => do return { f with manualLaunch := ← bool v.value }
  | "active" => do return { f with active := ← bool v.value }
  | "named_arg" => do return f.addArg (← text v.value) (← text v.second)
  | _ => none

end TaskFlow

namespace Schedule

/-- The schedule with a variation. -/
def vary? (s : Schedule) (v : Variation) : Option Schedule :=
  match v.name with
  | "time_zone" => do return { s with timeZone := ← text v.value }
  | "rule" => do return s.addRule (← RuleDefinition.ofValue? .json v.value)
  | "at" => do return s.addTimes (← text v.value)
  | "every" => do return s.addInterval (← int64 v.value)
  | _ => none

end Schedule

namespace PreparedRun

/-- A sample step's task and agent, by a number. -/
def sampleStep (n : Int) : Task × Agent := (.sample n (.command "/bin/x" [] ""), .sample (n + 100))

/-- The run with a variation. -/
def vary? (r : PreparedRun) (v : Variation) : Option PreparedRun :=
  match v.name with
  | "name" => do return { r with flowName := ← text v.value }
  | "queue" => do return r.inQueue (← int64 v.value)
  | "step" => do
    let (task, agent) := sampleStep (← int64 v.value)
    return r.addStep task agent
  | "step_with" => do
    let (task, agent) := sampleStep (← int64 v.value)
    let p ← StepPointers.ofValue? v.second
    return r.addStep task agent p.onOk p.onFail p.retry
  | "named_arg" => do return r.addArg (← text v.value) (← text v.second)
  | "identity" => do return { r with identity := ← text v.value }
  | "reject" => do return r.reject (← text v.value)
  | _ => none

/-- A step that a document denotes, with its task and agent in full. -/
def stepOfValue? (index : Nat) : Decoder PreparedStep := fun v => do
  let s ← slots .json ["task", "agent", "next_on_ok", "next_on_fail", "retry"] v
  return {
    index
    task := ← s.need "task" (Task.ofValue? .json 0)
    agent := ← s.need "agent" (Agent.ofValue? .json)
    nextOnOk := ← NextStep.ofCode? (← s.get "next_on_ok" int32 0)
    nextOnFail := ← NextStep.ofCode? (← s.get "next_on_fail" int32 (-1))
    retry := ← s.get "retry" nat32 0 }

/-- A run that a document sketches, launched by hand: all but the id of its flow may be missing. -/
def ofSketch? : Decoder PreparedRun := fun v => do
  let s ← slots .json
    ["taskflow_id", "name", "queue_id", "args", "identity", "reject", "at", "steps"] v
  let launchedAt := (← s.getOption "at" offsetTime).getD ⟨Instant.epoch, 0⟩
  let run := ofTrigger (← s.need "taskflow_id" int64) ((← s.getOption "name" text).getD "flow")
    (.manual "tester" launchedAt)
  let queueId := (← s.getOption "queue_id" int64).getD Queue.directId
  let run := if queueId = Queue.directId then { run with queueName := Queue.directName }
    else run.inQueue queueId
  let run := ((← s.getOption "args" NamedArgs.ofValue?).map run.withArgs).getD run
  let identity := (← s.getOption "identity" text).getD run.identity
  let steps := (← s.getOption "steps" (list some)).getD []
  let steps ← steps.zipIdx.mapM fun (step, i) => stepOfValue? (i + 1) step
  let run := { run with identity, steps }
  return ((← s.getOption "reject" text).map run.reject).getD run

end PreparedRun

/-- A task of the stub as a document. -/
def StubTask.toValue (t : StubTask) : Value := .record [
  ("agent_id", .integer t.agentId), ("remote_id", .integer t.remoteId), ("key", .text t.key),
  ("request", t.request.toValue)]

end FlowScheduler
