import FlowScheduler.Entity.Codec
import FlowScheduler.Repository.InMemory

/-!
Definitions in documents. Every list may be missing.
-/

namespace FlowScheduler

open Document Decode

namespace Definitions

/-- The definitions as a document. -/
def toValue (d : Definitions) : Value := .record [
  ("agents", .list (d.agents.map Agent.toValue)), ("tasks", .list (d.tasks.map Task.toValue)),
  ("queues", .list (d.queues.map Queue.toValue)), ("taskflows", .list (d.flows.map TaskFlow.toValue)),
  ("schedules", .list (d.schedules.map Schedule.toValue))]

/-- The definitions that a document denotes; a task stands in a list in a record. -/
def ofValue? (format : Format) : Decoder Definitions := fun v => do
  let s ← slots format ["agents", "tasks", "queues", "taskflows", "schedules"] v
  return {
    agents := ← s.get "agents" (list (Agent.ofValue? format)) []
    tasks := ← s.get "tasks" (list (Task.ofValue? format 2)) []
    queues := ← s.get "queues" (list (Queue.ofValue? format)) []
    flows := ← s.get "taskflows" (list (TaskFlow.ofValue? format)) []
    schedules := ← s.get "schedules" (list (Schedule.ofValue? format)) [] }

end Definitions

/-- The entity of a kind that a document denotes. -/
def Entity.ofValue? (format : Format) : EntityKind → Decoder Entity
  | .agent => fun v => (Agent.ofValue? format v).map .agent
  | .task => fun v => (Task.ofValue? format 0 v).map .task
  | .queue => fun v => (Queue.ofValue? format v).map .queue
  | .taskFlow => fun v => (TaskFlow.ofValue? format v).map .flow
  | .schedule => fun v => (Schedule.ofValue? format v).map .schedule

/-- What a source lists of a kind, as documents. -/
def EntitySource.listValue (s : EntitySource) (kind : EntityKind) (id : Option Int) :
    Except SchedulerError Value :=
  match kind with
  | .agent => (s.agents id).map fun as => .list (as.map Agent.toValue)
  | .task => (s.tasks id).map fun ts => .list (ts.map Task.toValue)
  | .queue => (s.queues id).map fun qs => .list (qs.map Queue.toValue)
  | .taskFlow => (s.flows id).map fun fs => .list (fs.map TaskFlow.toValue)
  | .schedule => (s.schedules id).map fun ss => .list (ss.map Schedule.toValue)

end FlowScheduler
