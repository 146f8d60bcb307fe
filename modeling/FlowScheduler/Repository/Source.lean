import FlowScheduler.Error
import FlowScheduler.Recurrence.Schedule
import FlowScheduler.Entity.Basic

/-!
Where entities are read from. A source lists the entities of each kind, either all or those with one
id; any reading may fail.
-/

namespace FlowScheduler

/-- What a repository answers when entities are read: all of a kind, or those with an id. -/
structure EntitySource where
  agents : Option Int → Except SchedulerError (List Agent)
  tasks : Option Int → Except SchedulerError (List Task)
  queues : Option Int → Except SchedulerError (List Queue)
  flows : Option Int → Except SchedulerError (List TaskFlow)
  schedules : Option Int → Except SchedulerError (List Schedule)

end FlowScheduler
