import FlowScheduler.Run.Codec
import FlowScheduler.Worker.Service

/-!
The state of a worker as a document.
-/

namespace FlowScheduler

open Document

/-- What the worker knows of a run, as a document. -/
def PreparedRun.progressValue (r : PreparedRun) : Value := .record [
  ("seq", .integer r.seq), ("identity", .text r.identity), ("state", .text r.state.label),
  ("queue_id", .integer r.queueId), ("queue_name", .text r.queueName),
  ("started_at", .ofOption .ofInstant r.startedAt),
  ("stopped_at", .ofOption .ofInstant r.stoppedAt), ("result", .integer r.result.code),
  ("message", .text r.resultMessage)]

/-- The queues by their ids and the runs in their order, as a document. -/
def Worker.toValue (w : Worker) : Value := .record [
  ("queues", .list (w.queues.values.map fun q => q.view.toValue)),
  ("runs", .list (w.runs.map PreparedRun.progressValue))]

/-- Outcomes that were saved, as a document. -/
def savedValue (saves : List (Int × RunOutcome)) : Value :=
  .list (saves.map fun (flowId, o) => .record [
    ("taskflow_id", .integer flowId), ("outcome", o.toValue)])

end FlowScheduler
