import FlowScheduler.Entity.Codec
import FlowScheduler.Run.View

/-!
Runs and views as JSON documents.
-/

namespace FlowScheduler

open Document Decode

namespace Document.Value

/-- A time with its offset as a timestamp. -/
def ofOffsetTime (t : OffsetTime) : Value := .text t.toText

end Document.Value

namespace RunState

/-- The state that a document denotes. -/
def ofValue? : Decoder RunState := choice (all.map fun s => (s.label, s))

end RunState

namespace PreparedStep

/-- The step with its task and its agent. -/
def toValue (s : PreparedStep) : Value := .record [
  ("index", .integer s.index), ("task", s.task.toValue), ("agent", s.agent.toValue),
  ("next_on_ok", .integer s.nextOnOk.code), ("next_on_fail", .integer s.nextOnFail.code),
  ("retry", .integer s.retry)]

end PreparedStep

namespace PreparedRun

/-- The run with everything that it holds. -/
def toValue (r : PreparedRun) : Value := .record [
  ("seq", .integer r.seq), ("taskflow_id", .integer r.flowId), ("taskflow_name", .text r.flowName),
  ("identity", .text r.identity), ("label", .text r.label), ("launch_source", .text r.launchSource),
  ("reference", .ofOffsetTime r.reference), ("named_args", r.namedArgs.toValue),
  ("error_management", .integer r.errorManagement),
  ("steps", .list (r.steps.map PreparedStep.toValue)), ("queue_id", .integer r.queueId),
  ("queue_name", .text r.queueName), ("state", .text r.state.label),
  ("started_at", .ofOption .ofInstant r.startedAt),
  ("stopped_at", .ofOption .ofInstant r.stoppedAt), ("result", .integer r.result.code),
  ("result_message", .text r.resultMessage), ("cannot_launch", .ofOption .text r.cannotLaunch)]

end PreparedRun

namespace QueueView

/-- The view as a document. -/
def toValue (q : QueueView) : Value := .record [
  ("id", .integer q.id), ("name", .text q.name), ("slot", .integer q.slot),
  ("max_size", .integer q.maxSize), ("paused", .bool q.paused),
  ("no_exec_while", .ofIntegers q.noExecWhile), ("processing", .integer q.processing),
  ("waiting", .integer q.waiting), ("launched", .integer q.launched),
  ("terminated", .integer q.terminated)]

/-- The view that a document denotes. -/
def ofValue? : Decoder QueueView := fun v => do
  let s ← slots .json ["id", "name", "slot", "max_size", "paused", "no_exec_while", "processing",
    "waiting", "launched", "terminated"] v
  return {
    id := ← s.need "id" int64
    name := ← s.need "name" text
    slot := ← s.need "slot" int32
    maxSize := ← s.need "max_size" int32
    paused := ← s.need "paused" bool
    noExecWhile := ← s.need "no_exec_while" (list int64)
    processing := ← s.need "processing" int32
    waiting := ← s.need "waiting" int32
    launched := ← s.need "launched" nat64
    terminated := ← s.need "terminated" nat64 }

end QueueView

namespace RunView

/-- The view as a document. -/
def toValue (r : RunView) : Value := .record [
  ("label", .text r.label), ("taskflow_id", .integer r.flowId), ("taskflow_name", .text r.flowName),
  ("identity", .text r.identity), ("launch_source", .text r.launchSource),
  ("reference", .ofOffsetTime r.reference), ("queue_id", .integer r.queueId),
  ("queue_name", .text r.queueName), ("state", .text r.state.label),
  ("started_at", .ofOption .ofInstant r.startedAt),
  ("stopped_at", .ofOption .ofInstant r.stoppedAt),
  ("duration_ms", .ofOption .integer r.durationMs), ("result", .integer r.result.code),
  ("result_message", .text r.resultMessage)]

/-- The view that a document denotes. -/
def ofValue? : Decoder RunView := fun v => do
  let s ← slots .json ["label", "taskflow_id", "taskflow_name", "identity", "launch_source",
    "reference", "queue_id", "queue_name", "state", "started_at", "stopped_at", "duration_ms",
    "result", "result_message"] v
  return {
    label := ← s.need "label" text
    flowId := ← s.need "taskflow_id" int64
    flowName := ← s.need "taskflow_name" text
    identity := ← s.need "identity" text
    launchSource := ← s.need "launch_source" text
    reference := ← s.need "reference" offsetTime
    queueId := ← s.need "queue_id" int64
    queueName := ← s.need "queue_name" text
    state := ← s.need "state" RunState.ofValue?
    startedAt := ← s.getOption "started_at" instant
    stoppedAt := ← s.getOption "stopped_at" instant
    durationMs := ← s.getOption "duration_ms" int64
    result := ← s.need "result" RunResult.ofValue?
    resultMessage := ← s.need "result_message" text }

end RunView

namespace WorkerSnapshot

/-- The snapshot as a document. -/
def toValue (w : WorkerSnapshot) : Value := .record [
  ("queues", .list (w.queues.map QueueView.toValue)), ("runs", .list (w.runs.map RunView.toValue)),
  ("taken_at", .ofOption .ofInstant w.takenAt)]

/-- The snapshot that a document denotes. -/
def ofValue? : Decoder WorkerSnapshot := fun v => do
  let s ← slots .json ["queues", "runs", "taken_at"] v
  return {
    queues := ← s.need "queues" (list QueueView.ofValue?)
    runs := ← s.need "runs" (list RunView.ofValue?)
    takenAt := ← s.getOption "taken_at" instant }

end WorkerSnapshot

namespace UpcomingLaunch

/-- The launch as a document. -/
def toValue (u : UpcomingLaunch) : Value := .record [
  ("at", .ofInstant u.instant), ("schedule_id", .integer u.scheduleId),
  ("schedule_name", .text u.scheduleName), ("taskflow_id", .integer u.flowId),
  ("taskflow_name", .text u.flowName)]

/-- The launch that a document denotes. -/
def ofValue? : Decoder UpcomingLaunch := fun v => do
  let s ← slots .json ["at", "schedule_id", "schedule_name", "taskflow_id", "taskflow_name"] v
  return {
    instant := ← s.need "at" Decode.instant
    scheduleId := ← s.need "schedule_id" int64
    scheduleName := ← s.need "schedule_name" text
    flowId := ← s.need "taskflow_id" int64
    flowName := ← s.need "taskflow_name" text }

end UpcomingLaunch

namespace Dashboard

/-- The dashboard as a document. -/
def toValue (d : Dashboard) : Value := .record [
  ("worker", d.worker.toValue), ("upcoming", .list (d.upcoming.map UpcomingLaunch.toValue))]

/-- The dashboard that a document denotes. -/
def ofValue? : Decoder Dashboard := fun v => do
  let s ← slots .json ["worker", "upcoming"] v
  return {
    worker := ← s.need "worker" WorkerSnapshot.ofValue?
    upcoming := ← s.need "upcoming" (list UpcomingLaunch.ofValue?) }

end Dashboard

end FlowScheduler
