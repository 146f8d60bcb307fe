import FlowScheduler.Run.View

/-!
A queue at work: its definition and its counters.
-/

namespace FlowScheduler

/-- A queue with the number of its runs in progress and waiting, and how many it has launched and seen
end. -/
structure QueueState where
  definition : Queue
  processing : Int := 0
  waiting : Int := 0
  launched : Nat := 0
  terminated : Nat := 0
  deriving DecidableEq, Repr

namespace QueueState

/-- The queue with another definition; the counters stay. -/
def redefine (q : QueueState) (definition : Queue) : QueueState := { q with definition }

/-- The queue with no runs in progress or waiting. -/
def resetCounts (q : QueueState) : QueueState := { q with processing := 0, waiting := 0 }

/-- Whether no further run may wait. -/
def isFull (q : QueueState) : Bool :=
  0 < q.definition.maxSize && q.definition.maxSize ≤ q.processing + q.waiting

/-- Whether a waiting run may start. -/
def canLaunch (q : QueueState) : Bool :=
  !q.definition.paused && q.processing < q.definition.slot

/-- The queue after a waiting run has started. -/
def launchOne (q : QueueState) : QueueState :=
  { q with processing := q.processing + 1, waiting := q.waiting - 1, launched := q.launched + 1 }

/-- The queue after a run has ended; the counters of its runs are taken anew later. -/
def endOne (q : QueueState) : QueueState := { q with terminated := q.terminated + 1 }

/-- The queue with the counters of its runs taken from a list of runs. -/
def recount (id : Int) (runs : List PreparedRun) (q : QueueState) : QueueState :=
  { q with
    processing := runs.countP fun r => r.queueId == id && r.state == .inProgress
    waiting := runs.countP fun r => r.queueId == id && r.state.isPending }

/-- The view of the queue. -/
def view (q : QueueState) : QueueView where
  id := q.definition.id
  name := q.definition.name
  slot := q.definition.slot
  maxSize := q.definition.maxSize
  paused := q.definition.paused
  noExecWhile := q.definition.noExecWhile
  processing := q.processing
  waiting := q.waiting
  launched := q.launched
  terminated := q.terminated

end QueueState

end FlowScheduler
