import FlowScheduler.Dispatch.Planner
import FlowScheduler.Simulation.Worker

/-!
The whole service on a virtual clock: the planner, the worker, and a scripted agent.

The planner looks at the clock at the start and then at every tick. To stop, it waits until no run is
active, asking again after every poll interval, but not longer than the grace period; then the worker is
shut down. A planner that cannot tell when its grace period ends breaks off instead, and the worker goes on
without it.
-/

namespace FlowScheduler

/-- The service on a virtual clock. -/
structure SimulatedSystem where
  settings : SchedulerSettings
  planner : Planner
  /-- Whether the planner goes on: it has not been stopped, and time passes between its ticks. -/
  running : Bool
  nextTick : Nat
  site : SimulatedWorker
  /-- For how many milliseconds the machine had been running at the start. -/
  uptimeMs : Nat

namespace SimulatedSystem

/-- Hands the planner's commands to the worker; what a worker that has been shut down is asked is
lost. -/
def perform (s : SimulatedSystem) (commands : List WorkerCommand) : SimulatedSystem :=
  { s with site := commands.foldl (fun site command =>
      match command with
      | .submit run => site.handle (.submit run)
      | .updateQueue queue => site.handle (.updateQueue queue)) s.site }

/-- The milliseconds since the start. -/
def elapsed (s : SimulatedSystem) : Nat := s.site.elapsed

/-- A look at the clock. -/
def tick (s : SimulatedSystem) : SimulatedSystem :=
  let (planner, commands) := s.planner.tick s.site.now
  { s with planner, nextTick := s.elapsed + s.settings.tickIntervalMs }.perform commands

/-- Lets all timers up to a time go off in order; `fuel` bounds their number. -/
def advance : (fuel target : Nat) → SimulatedSystem → SimulatedSystem
  | 0, target, s => { s with site := { s.site with elapsed := max s.elapsed target } }
  | fuel + 1, target, s =>
    let rest : SimulatedSystem := { s with site := { s.site with elapsed := max s.elapsed target } }
    let tickFirst := s.running && s.site.firstTimer?.all fun (time, _) => s.nextTick ≤ time
    if tickFirst then
      if s.nextTick ≤ target then
        let site := { s.site with elapsed := max s.elapsed s.nextTick }
        advance fuel target { s with site }.tick
      else rest
    else match s.site.firstTimer? with
      | some (time, timer) =>
        if time ≤ target then advance fuel target { s with site := s.site.fire time timer }
        else rest
      | none => rest

/-- Lets time pass. -/
def sleep (s : SimulatedSystem) (ms : Nat) : SimulatedSystem :=
  advance (2 * SimulatedWorker.timerBound ms) (s.elapsed + ms) s

/-- The service at its start, after all that happens at once. The machine has been running for a second, unless
another time is given. -/
def start (settings : Settings) (source : EntitySource) (agent : ScriptedAgent)
    (repository : MemoryRepository) (startedAt : Instant) (uptimeMs : Nat := 1000) :
    Except SchedulerError SimulatedSystem :=
  match Planner.start settings.scheduler source startedAt with
  | .error e => .error e
  | .ok planner =>
    let site := SimulatedWorker.init settings planner.cache.queues.values agent repository startedAt
    let running := 0 < settings.scheduler.tickIntervalMs
    .ok <| sleep { settings := settings.scheduler, planner, running, nextTick := 0, site, uptimeMs } 0

/-! ### Requests from outside -/

/-- The error of a request to a service that has been stopped. -/
def closed : SchedulerError := .channelClosed "scheduler"

/-- Lets the planner take in a change of entities. -/
def applyChange (s : SimulatedSystem) (source : EntitySource) (change : Option EntityChange) :
    Except SchedulerError SimulatedSystem :=
  if s.running then
    let (planner, commands) := s.planner.applyChange source change
    .ok ({ s with planner }.perform commands)
  else .error closed

/-- Launches a flow by hand. -/
def launchManually (s : SimulatedSystem) (flowId : Int) (actor : String) :
    Except SchedulerError SimulatedSystem :=
  if s.running then .ok (s.perform (s.planner.launchManually flowId actor s.site.now))
  else .error closed

/-- Waits until the worker has no active run or has ended, or the deadline is reached; `fuel` bounds the
number of questions. -/
def drain : (fuel deadline : Nat) → SimulatedSystem → SimulatedSystem
  | 0, _, s => s
  | fuel + 1, deadline, s =>
    if !s.site.running ∨ s.site.worker.activeRuns = 0 ∨ deadline ≤ s.elapsed then s
    else drain fuel deadline (s.sleep s.settings.shutdownPollIntervalMs)

/-- Stops the planner, waits for the active runs within the grace period and shuts the worker
down. If the end of the grace period is impossible, there is no answer, and the worker goes on. -/
def stop (s : SimulatedSystem) : SimulatedSystem × Except SchedulerError Unit :=
  if s.running then
    let stopped : SimulatedSystem := { s with running := false }
    if s.settings.graceIsPossible (s.uptimeMs + s.elapsed) then
      let graceMs := s.settings.shutdownGraceSeconds * 1000
      let drained := drain (graceMs / s.settings.shutdownPollIntervalMs + 2) (s.elapsed + graceMs) stopped
      ({ drained with site := drained.site.shutdown }, .ok ())
    else (stopped, .error (.channelClosed "scheduler stop"))
  else (s, .error closed)

/-- What the dashboard shows. -/
def dashboard (s : SimulatedSystem) : Dashboard := ⟨s.site.worker.snapshot, s.planner.upcoming⟩

end SimulatedSystem

end FlowScheduler
