import FlowScheduler.Config.Settings
import FlowScheduler.Entity.ById
import FlowScheduler.Execution.Flow
import FlowScheduler.Worker.QueueState

/-!
The worker: it admits runs, holds them in their queues and starts them when a slot is free.

Every operation answers with the new state, whether something changed, whether the worker broke off, the
outcomes that are to be saved and the runs that are to be executed. A worker breaks off when it is to clean up
and cannot tell when the time of a terminated run is over; it does nothing more then. `Worker.handle` is one
turn of the worker: an event and, if it changed something, a check of the list of runs.
-/

namespace FlowScheduler

/-- The state of a worker. -/
structure Worker where
  /-- How long terminated runs are kept, in nanoseconds. -/
  retentionNanos : Int
  queues : ById QueueState
  /-- The runs in the order of their submission. -/
  runs : List PreparedRun
  /-- The number of the last run that was admitted. -/
  lastSeq : Nat
  /-- The state as last published. -/
  snapshot : WorkerSnapshot
  deriving DecidableEq, Repr

/-- What an operation of the worker comes to. -/
structure WorkerStep where
  worker : Worker
  changed : Bool := false
  /-- Whether the worker has broken off. -/
  brokeOff : Bool := false
  /-- The outcomes that are to be saved, under the ids of their flows. -/
  saves : List (Int × RunOutcome) := []
  /-- The runs whose execution begins. -/
  started : List PreparedRun := []
  deriving DecidableEq, Repr

/-- What happens to a worker. -/
inductive WorkerEvent where
  | submit (run : PreparedRun)
  | updateQueue (queue : Queue)
  /-- The execution of the run with this number has ended. -/
  | complete (seq : Nat) (outcome : FlowOutcome)
  | housekeeping
  deriving DecidableEq, Repr

namespace Worker

/-! ### Queues -/

/-- Adds or changes a queue; a definition without slots deletes it. The direct queue stays as it
is. -/
def updateQueue (w : Worker) (q : Queue) : WorkerStep :=
  if q.id ≤ Queue.directId then { worker := w }
  else if q.isDeleted then
    { worker := { w with queues := w.queues.erase q.id }, changed := true }
  else
    let state := match w.queues.get? q.id with
      | some old => old.redefine q
      | none => { definition := q }
    { worker := { w with queues := w.queues.insert q.id state }, changed := true }

/-! ### The list of runs -/

/-- A pending run of a queue that is gone moves to the direct queue; a new run of another queue
becomes queued. -/
def settle (queues : ById QueueState) (r : PreparedRun) : PreparedRun :=
  if r.state.isPending && r.queueId != Queue.directId then
    if queues.contains r.queueId then { r with state := .queued }
    else { r with queueId := Queue.directId, queueName := Queue.directName, state := .new }
  else r

/-- The worker with its runs settled and the counters of its queues taken anew. -/
def recount (w : Worker) : Worker :=
  let runs := w.runs.map (settle w.queues)
  { w with runs, queues := w.queues.mapWithId fun id q => q.recount id runs }

/-- Whether a terminated run is to be kept. -/
def isRetained (retentionNanos : Int) (now : Instant) (r : PreparedRun) : Bool :=
  match r.state, r.stoppedAt with
  | .terminated, some stopped => now ≤ stopped.addNanos retentionNanos
  | _, _ => true

/-- Whether the time until which a run is to be kept, if it has ended, lies in the calendar. -/
def hasExpiry (retentionNanos : Int) (r : PreparedRun) : Bool :=
  match r.state, r.stoppedAt with
  | .terminated, some stopped => (stopped.addNanos retentionNanos).inCalendar
  | _, _ => true

/-- Whether it can be told which runs are to be kept: the span for which they are kept is possible, and it does
not lead out of the calendar. -/
def canClean (w : Worker) : Bool :=
  (spanSeconds? (w.retentionNanos / nanosPerSecond)).isSome && w.runs.all (hasExpiry w.retentionNanos)

/-- The worker without the terminated runs whose time is over. -/
def clean (w : Worker) (now : Instant) : Worker :=
  { w with runs := w.runs.filter (isRetained w.retentionNanos now) }

/-- A run at its start. -/
def start (now : Instant) (r : PreparedRun) : PreparedRun :=
  { r with state := .inProgress, startedAt := some now }

/-- The queues after pending runs have been started in order, as far as their queues allow; with all
runs and with those that were started. -/
def launchFrom (now : Instant) :
    ById QueueState → List PreparedRun → ById QueueState × List PreparedRun × List PreparedRun
  | queues, [] => (queues, [], [])
  | queues, r :: rs =>
    if r.state.isPending && (queues.get? r.queueId).any QueueState.canLaunch then
      let (after, runs, started) := launchFrom now (queues.modify r.queueId QueueState.launchOne) rs
      (after, start now r :: runs, start now r :: started)
    else
      let (after, runs, started) := launchFrom now queues rs
      (after, r :: runs, started)

/-- Starts pending runs as far as their queues allow. -/
def launchPending (w : Worker) (now : Instant) : WorkerStep :=
  let (queues, runs, started) := launchFrom now w.queues w.runs
  { worker := { w with queues, runs }, started }

/-- The view of all queues and runs. -/
def observe (w : Worker) (now : Instant) : WorkerSnapshot where
  queues := w.queues.values.map QueueState.view
  runs := (w.runs.map (·.view now)).mergeSort fun a b => !(b.label < a.label)
  takenAt := some now

/-- The worker with its state published. -/
def publish (w : Worker) (now : Instant) : Worker := { w with snapshot := w.observe now }

/-- Cleans up, counts, starts what can be started, and publishes. -/
def sweep (w : Worker) (now : Instant) : WorkerStep :=
  let step := (w.clean now).recount.launchPending now
  { step with worker := step.worker.publish now }

/-- The check of the list of runs, which begins with the cleaning. -/
def checkRuns (w : Worker) (now : Instant) : WorkerStep :=
  if w.canClean then w.sweep now else { worker := w, brokeOff := true }

/-! ### Admission -/

/-- The number of runs that have not ended. -/
def activeRuns (w : Worker) : Nat := w.runs.countP fun r => !r.state.isTerminal

/-- Whether a run that has not ended has this key. -/
def isActive (w : Worker) (identity : String) : Bool :=
  w.runs.any fun r => r.identity == identity && !r.state.isTerminal

/-- The worker with a run at the end of its list under the next number, in the place of terminated
runs of the same key. -/
def append (w : Worker) (r : PreparedRun) : Worker :=
  { w with
    lastSeq := w.lastSeq + 1
    runs := w.runs.filter (fun o => !(o.state.isTerminal && o.identity == r.identity)) ++
      [{ r with seq := w.lastSeq + 1 }] }

/-- Admits a run, unless it has no key, its key is active, or its queue is missing or full. A run that
cannot be launched ends at once. -/
def submit (w : Worker) (r : PreparedRun) (now : Instant) : WorkerStep :=
  if r.identity = "" then { worker := w }
  else if w.isActive r.identity then { worker := w }
  else if r.cannotLaunch.isSome then
    let ended := { r with state := .terminated, stoppedAt := some now }
    { worker := w.append ended, changed := true, saves := [(r.flowId, ended.outcome)] }
  else if !w.queues.contains r.queueId then { worker := w }
  else
    let counted := w.recount
    if (counted.queues.get? r.queueId).any QueueState.isFull then { worker := counted }
    else { worker := counted.append { r with state := .new }, changed := true }

/-- Takes in the end of an execution. -/
def complete (w : Worker) (seq : Nat) (outcome : FlowOutcome) (now : Instant) : WorkerStep :=
  match w.runs.find? (·.seq == seq) with
  | none => { worker := w }
  | some r =>
    if r.state.isTerminal then { worker := w }
    else
      let ended := { r with
        state := .terminated, stoppedAt := some now, result := outcome.result,
        resultMessage := outcome.transcript }
      { worker := { w with
          runs := w.runs.map fun o => if o.seq = seq then ended else o
          queues := w.queues.modify r.queueId QueueState.endOne }
        changed := true
        saves := [(r.flowId, ended.outcome)] }

/-! ### Turns -/

/-- The first part of a turn: the event itself. -/
def react (w : Worker) (now : Instant) : WorkerEvent → WorkerStep
  | .submit run => w.submit run now
  | .updateQueue queue => w.updateQueue queue
  | .complete seq outcome => w.complete seq outcome now
  | .housekeeping =>
    if w.canClean then { worker := w.clean now, changed := true } else { worker := w, brokeOff := true }

/-- The second part of a turn: a check of the runs, if the event changed something. -/
def followUp (now : Instant) (step : WorkerStep) : WorkerStep :=
  if step.changed then
    let checked := step.worker.checkRuns now
    { worker := checked.worker, changed := true, brokeOff := checked.brokeOff,
      saves := step.saves ++ checked.saves, started := step.started ++ checked.started }
  else step

/-- A turn of the worker: an event and, if it changed something, a check of the runs. The clock is read for
each of the two; a turn that takes no time reads the same. -/
def handle (w : Worker) (now : Instant) (e : WorkerEvent) (checkedAt : Instant := now) : WorkerStep :=
  followUp checkedAt (w.react now e)

/-- A worker with the direct queue and the given ones. -/
def init (settings : WorkerSettings) (queues : List Queue) (now : Instant) : Worker :=
  let empty : Worker := {
    retentionNanos := settings.retentionNanos
    queues := ById.insert ∅ Queue.directId { definition := .direct settings.directQueueSlot }
    runs := [], lastSeq := 0, snapshot := {} }
  (queues.foldl (fun w q => (w.updateQueue q).worker) empty).publish now

end Worker

end FlowScheduler
