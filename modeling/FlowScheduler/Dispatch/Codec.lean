import FlowScheduler.Dispatch.Planner
import FlowScheduler.Run.Codec

/-!
What the planner works with, as documents.
-/

namespace FlowScheduler

open Document

/-- A planned launch as a document: its instant and its schedule. -/
def PlannedLaunch.toValue (e : PlannedLaunch) : Value :=
  .list [.ofInstant e.instant, .integer e.scheduleId]

/-- The report of a refresh as a document. -/
def RefreshReport.toValue (r : RefreshReport) : Value := .record [
  ("kind", .text r.kind.documentName), ("removed_queues", .ofIntegers r.removedQueues)]

/-- What is cached under an id, as a document: the names of the entities, and the ids of the flows that
a schedule of that id launches. -/
def Cache.entryValue (c : Cache) (id : Int) : Value := .record [
  ("id", .integer id), ("agent", .ofOption (.text ·.host) (c.agents.get? id)),
  ("task", .ofOption (.text ·.name) (c.tasks.get? id)),
  ("taskflow", .ofOption (.text ·.name) (c.flows.get? id)),
  ("queue", .ofOption (.text ·.name) (c.queues.get? id)),
  ("schedule", .ofOption (fun s =>
    .list [.text s.name, .text s.zone.name, .integer s.rules.length]) (c.schedules.get? id)),
  ("taskflows_of", .ofIntegers (c.flowIdsOf id))]

/-- The cache as a document, with the entries of some ids. -/
def Cache.toValue (c : Cache) (ids : List Int) : Value := .record [
  ("entries", .list (ids.map c.entryValue)),
  ("queues", .list (c.queues.values.map Queue.toValue)),
  ("schedules", .ofIntegers c.schedules.ids)]

/-- The order of coming launches: by instant, then by schedule, then by flow. -/
def UpcomingLaunch.isBefore (a b : UpcomingLaunch) : Bool :=
  a.instant < b.instant || (a.instant == b.instant &&
    (a.scheduleId < b.scheduleId || (a.scheduleId == b.scheduleId && a.flowId ≤ b.flowId)))

/-- A command to the worker as a document. -/
def WorkerCommand.toValue : WorkerCommand → Value
  | .submit r => .record [("submit", r.toValue)]
  | .updateQueue q => .record [("update_queue", q.toValue)]

end FlowScheduler
