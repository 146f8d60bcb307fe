import FlowScheduler.Run.Prepared

/-!
Read-only views of queues, runs and coming launches.
-/

namespace FlowScheduler

/-- A queue with its counters. -/
structure QueueView where
  id : Int
  name : String
  slot : Int
  maxSize : Int
  paused : Bool
  noExecWhile : List Int
  processing : Int
  waiting : Int
  launched : Nat
  terminated : Nat
  deriving DecidableEq, Repr

/-- A run as it is shown. -/
structure RunView where
  label : String
  flowId : Int
  flowName : String
  identity : String
  launchSource : String
  reference : OffsetTime
  queueId : Int
  queueName : String
  state : RunState
  startedAt : Option Instant
  stoppedAt : Option Instant
  durationMs : Option Int
  result : RunResult
  resultMessage : String
  deriving DecidableEq, Repr

/-- Whether the run ended well. -/
def RunView.succeeded (v : RunView) : Bool := v.result == .ok

/-- The view of a run at an instant. -/
def PreparedRun.view (r : PreparedRun) (now : Instant) : RunView where
  label := r.label
  flowId := r.flowId
  flowName := r.flowName
  identity := r.identity
  launchSource := r.launchSource
  reference := r.reference
  queueId := r.queueId
  queueName := r.queueName
  state := r.state
  startedAt := r.startedAt
  stoppedAt := r.stoppedAt
  durationMs := r.durationMs now
  result := r.result
  resultMessage := r.resultMessage

/-- The state of a worker: queues by id, runs by label. -/
structure WorkerSnapshot where
  queues : List QueueView := []
  runs : List RunView := []
  takenAt : Option Instant := none
  deriving DecidableEq, Repr

namespace WorkerSnapshot

/-- The first queue with an id. -/
def queue? (s : WorkerSnapshot) (id : Int) : Option QueueView := s.queues.find? (·.id == id)

/-- The runs of a flow. -/
def runsOf (s : WorkerSnapshot) (flowId : Int) : List RunView := s.runs.filter (·.flowId == flowId)

end WorkerSnapshot

/-- A launch of a task flow that is planned. -/
structure UpcomingLaunch where
  instant : Instant
  scheduleId : Int
  scheduleName : String
  flowId : Int
  flowName : String
  deriving DecidableEq, Repr

/-- All that a dashboard shows. -/
structure Dashboard where
  worker : WorkerSnapshot := {}
  upcoming : List UpcomingLaunch := []
  deriving DecidableEq, Repr

end FlowScheduler
