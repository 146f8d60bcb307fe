import FlowScheduler.Repository.InMemory
import FlowScheduler.Simulation.ScriptedAgent
import FlowScheduler.Worker.Service

/-!
A worker on a virtual clock.

Time is counted in milliseconds from the start and moves only when the clock is advanced, from one timer
to the next. There is a timer for the worker's housekeeping, and one for each execution: an agent takes
a millisecond to answer a request, and every question for a status is preceded by one poll interval.
What follows from a timer without time passing happens at once.
-/

namespace FlowScheduler

/-- An execution on a virtual clock. -/
structure TimedExecution where
  /-- The number of the run. -/
  seq : Nat
  execution : Execution
  /-- When the execution goes on; absent if it waits forever. -/
  wakeAt : Option Nat

/-- A worker with its executions on a virtual clock. -/
structure SimulatedWorker where
  startedAt : Instant
  /-- The milliseconds since the start. -/
  elapsed : Nat
  pollIntervalMs : Nat
  housekeepingMs : Nat
  worker : Worker
  /-- Whether the worker goes on: it has not been shut down and has not broken off. -/
  running : Bool
  nextHousekeeping : Nat
  executions : List TimedExecution
  agent : ScriptedAgent
  repository : MemoryRepository

namespace SimulatedWorker

/-- The time that a virtual clock shows. -/
def clock (startedAt : Instant) (elapsed : Nat) : Instant := startedAt.addNanos (elapsed * 1000000)

/-- The time. -/
def now (s : SimulatedWorker) : Instant := clock s.startedAt s.elapsed

/-- A worker at the start; its first housekeeping is due at once. -/
def init (settings : Settings) (queues : List Queue) (agent : ScriptedAgent)
    (repository : MemoryRepository) (startedAt : Instant) : SimulatedWorker where
  startedAt
  elapsed := 0
  pollIntervalMs := settings.agent.pollIntervalMs
  housekeepingMs := settings.worker.housekeepingIntervalMs
  worker := .init settings.worker queues startedAt
  -- without time between them, there is no first housekeeping
  running := 0 < settings.worker.housekeepingIntervalMs
  nextHousekeeping := 0
  executions := []
  agent
  repository

/-! ### Executions -/

/-- An execution in its present phase with the timer that belongs to it. -/
def schedule (s : SimulatedWorker) (seq : Nat) (e : Execution) : SimulatedWorker × TimedExecution :=
  match e.phase with
  | .submitting .. =>
    let (agent, answered) := s.agent.begin
    ({ s with agent }, ⟨seq, e, if answered then some (s.elapsed + 1) else none⟩)
  | .polling .. => (s, ⟨seq, e, some (s.elapsed + s.pollIntervalMs)⟩)
  | .overflowed .. => (s, ⟨seq, e, some s.elapsed⟩)
  | .ended _ => (s, ⟨seq, e, none⟩)

/-- Adds an execution, or replaces the one of the same run. -/
def putExecution (s : SimulatedWorker) (t : TimedExecution) : SimulatedWorker :=
  if s.executions.any (·.seq == t.seq) then
    { s with executions := s.executions.map fun o => if o.seq = t.seq then t else o }
  else { s with executions := s.executions ++ [t] }

/-- Removes the execution of a run. -/
def dropExecution (s : SimulatedWorker) (seq : Nat) : SimulatedWorker :=
  { s with executions := s.executions.filter (·.seq != seq) }

/-- Takes in what an operation of the worker comes to: outcomes are saved and executions begin. The
events that follow at once are those of executions that end where they begin. -/
def absorb (s : SimulatedWorker) (step : WorkerStep) : SimulatedWorker × List WorkerEvent :=
  let s := { s with worker := step.worker, repository := s.repository.saveAll step.saves }
  step.started.foldl (fun (s, events) run =>
    let e := Execution.start run
    match e.outcome? with
    | some outcome => (s, events ++ [.complete run.seq outcome])
    | none =>
      let (s, t) := s.schedule run.seq e
      (s.putExecution t, events)) (s, [])

/-- Lets the worker handle events and all that follow from them at once; `fuel` bounds their number.
A worker that has ended handles nothing, and one that breaks off ends. -/
def handleAll : (fuel : Nat) → List WorkerEvent → SimulatedWorker → SimulatedWorker
  | 0, _, s => s
  | _, [], s => s
  | fuel + 1, e :: es, s =>
    if !s.running then s
    else
      let step := s.worker.handle s.now e
      let (s, more) := s.absorb step
      if step.brokeOff then { s with running := false } else handleAll fuel (es ++ more) s

/-- Lets the worker handle an event and what follows from it. -/
def handle (s : SimulatedWorker) (e : WorkerEvent) : SimulatedWorker :=
  handleAll (s.worker.runs.length + 3) [e] s

/-- Lets an execution go on whose timer has gone off. -/
def wake (s : SimulatedWorker) (t : TimedExecution) : SimulatedWorker :=
  match t.execution.serve s.agent with
  | none => s.dropExecution t.seq
  | some (e, agent) =>
    let s := { s with agent }
    match e.outcome? with
    | some outcome => (s.dropExecution t.seq).handle (.complete t.seq outcome)
    | none =>
      let (s, t) := s.schedule t.seq e
      s.putExecution t

/-! ### Time -/

/-- What a timer belongs to. -/
inductive Timer where
  | execution (t : TimedExecution)
  | housekeeping

/-- The execution that goes on first. -/
def firstExecution? (s : SimulatedWorker) : Option (Nat × TimedExecution) :=
  s.executions.foldl (fun best t =>
    match t.wakeAt, best with
    | none, best => best
    | some wakeAt, none => some (wakeAt, t)
    | some wakeAt, some (earliest, first) =>
      if wakeAt < earliest then some (wakeAt, t) else some (earliest, first)) none

/-- The timer that goes off first, with its time. -/
def firstTimer? (s : SimulatedWorker) : Option (Nat × Timer) :=
  match s.firstExecution?, s.running with
  | none, false => none
  | none, true => some (s.nextHousekeeping, .housekeeping)
  | some (wakeAt, t), running =>
    if running && s.nextHousekeeping < wakeAt then some (s.nextHousekeeping, .housekeeping)
    else some (wakeAt, .execution t)

/-- Lets a timer go off. -/
def fire (s : SimulatedWorker) (time : Nat) (timer : Timer) : SimulatedWorker :=
  let s := { s with elapsed := max s.elapsed time }
  match timer with
  | .execution t => s.wake t
  | .housekeeping =>
    { s with nextHousekeeping := s.elapsed + s.housekeepingMs }.handle .housekeeping

/-- Lets all timers up to a time go off in order; `fuel` bounds their number. -/
def advance : (fuel target : Nat) → SimulatedWorker → SimulatedWorker
  | 0, target, s => { s with elapsed := max s.elapsed target }
  | fuel + 1, target, s =>
    match s.firstTimer? with
    | some (time, timer) =>
      if time ≤ target then advance fuel target (s.fire time timer)
      else { s with elapsed := max s.elapsed target }
    | none => { s with elapsed := max s.elapsed target }

/-- More timers than can go off in so many milliseconds if all intervals are positive: a housekeeping a
millisecond, and for each request that is answered a question for its status a millisecond. -/
def timerBound (ms : Nat) : Nat := (ms + 2) * (ScriptedAgent.maxRequests + 2)

/-- Lets time pass. -/
def sleep (s : SimulatedWorker) (ms : Nat) : SimulatedWorker :=
  advance (timerBound ms) (s.elapsed + ms) s

/-! ### Requests from outside -/

/-- The error of a request to a worker that has been shut down. -/
def closed : SchedulerError := .channelClosed "worker"

/-- Asks the worker to handle an event. -/
def send (s : SimulatedWorker) (e : WorkerEvent) : Except SchedulerError SimulatedWorker :=
  if s.running then .ok (s.handle e) else .error closed

/-- The number of runs that have not ended. -/
def activeRuns (s : SimulatedWorker) : Except SchedulerError Nat :=
  if s.running then .ok s.worker.activeRuns else .error closed

/-- Shuts the worker down; executions that have begun go on. -/
def shutdown (s : SimulatedWorker) : SimulatedWorker := { s with running := false }

/-- The requests answered and the outcomes saved so far, and the state with its record of them
cleared. -/
def takeRecord (s : SimulatedWorker) :
    SimulatedWorker × List Submission × List (Int × RunOutcome) :=
  let (agent, submissions) := s.agent.takeSubmissions
  ({ s with agent, repository := { s.repository with saved := [] } }, submissions,
    s.repository.saved)

end SimulatedWorker

end FlowScheduler
