import FlowScheduler.Config.Settings
import FlowScheduler.Dispatch.Lookahead
import FlowScheduler.Dispatch.Preparation
import FlowScheduler.Run.View

/-!
The planner: it keeps the launches of the near future and hands the worker the runs that are due.

At every look at the clock (`tick`) the due launches become runs. Launches are planned up to a horizon,
one lookahead after the reference; once half of the lookahead has passed they are planned anew. What the
planner asks of the worker is the list of commands that each operation returns.
-/

namespace FlowScheduler

/-! ### Launches up to a horizon -/

/-- A measure of the time that is left between two instants. -/
def Instant.gap (a b : Instant) : Nat := (b.second - a.second).toNat * 2000000000 + (2000000000 - a.nanos)

theorem Instant.gap_lt {a b c : Instant} (h : a < b) (h' : b ≤ c) : gap b c < gap a c := by
  have := a.nanos_lt
  have := b.nanos_lt
  have := c.nanos_lt
  rw [lt_iff] at h
  rw [le_iff] at h'
  simp only [gap]
  omega

/-- The launches after the reference and not after the horizon, each found from the one before. -/
def CompiledSchedule.launchesUntil (s : CompiledSchedule) (horizon reference : Instant) :
    List Instant :=
  match h : s.next? reference with
  | none => []
  | some i =>
    if h' : i ≤ horizon then
      have := Instant.gap_lt (CompiledSchedule.next?_gt h) h'
      i :: s.launchesUntil horizon i
    else []
termination_by Instant.gap reference horizon

theorem CompiledSchedule.lt_of_mem_launchesUntil {s : CompiledSchedule}
    {horizon reference i : Instant} (h : i ∈ s.launchesUntil horizon reference) : reference < i := by
  fun_induction CompiledSchedule.launchesUntil s horizon reference with
  | case1 => simp at h
  | case2 reference j hj _ _ ih =>
    rcases List.mem_cons.1 h with rfl | h
    · exact next?_gt hj
    · exact Instant.lt_trans (next?_gt hj) (ih h)
  | case3 => simp at h

theorem CompiledSchedule.launchesUntil_pairwise (s : CompiledSchedule)
    (horizon reference : Instant) : (s.launchesUntil horizon reference).Pairwise (· < ·) := by
  fun_induction CompiledSchedule.launchesUntil s horizon reference with
  | case1 => exact .nil
  | case2 _ _ _ _ _ ih => exact List.pairwise_cons.2 ⟨fun _ => lt_of_mem_launchesUntil, ih⟩
  | case3 => exact .nil

/-! ### The planner -/

/-- What the worker is asked to do. -/
inductive WorkerCommand where
  | submit (run : PreparedRun)
  /-- Adds or changes a queue, or deletes it. -/
  | updateQueue (queue : Queue)
  deriving DecidableEq, Repr

/-- The state of the planner. -/
structure Planner where
  /-- How far ahead launches are planned, in nanoseconds. -/
  lookaheadNanos : Int
  /-- How many coming launches are published. -/
  viewLimit : Nat
  cache : Cache
  launches : Lookahead
  /-- Up to when launches have been handled. -/
  reference : Instant
  /-- When launches are planned anew. -/
  refreshAt : Instant
  /-- The coming launches as last published. -/
  upcoming : List UpcomingLaunch
  deriving DecidableEq, Repr

namespace Cache

/-- The runs of a launch: one for each flow that the schedule launches. -/
def runsOf (c : Cache) (e : PlannedLaunch) : List PreparedRun :=
  match c.schedules.get? e.scheduleId with
  | none => []
  | some s =>
    (c.flowsOf e.scheduleId).map
      (c.prepare · (.scheduled e.scheduleId (s.zone.toOffset e.instant)))

/-- The entry of a flow that a schedule launches in the view of coming launches. -/
def viewOf (e : PlannedLaunch) (s : CompiledSchedule) (f : TaskFlow) : UpcomingLaunch where
  instant := e.instant
  scheduleId := e.scheduleId
  scheduleName := s.name
  flowId := f.id
  flowName := f.name

/-- Adds the cached ones of the flows that a launch starts to a view. This ends at the first flow that finds
the view full, which is told too. -/
def collectFlows (c : Cache) (limit : Nat) (e : PlannedLaunch) (s : CompiledSchedule) :
    List Int → Array UpcomingLaunch → Array UpcomingLaunch × Bool
  | [], view => (view, false)
  | id :: ids, view =>
    if limit ≤ view.size then (view, true)
    else match c.flows.get? id with
      | none => c.collectFlows limit e s ids view
      | some f => c.collectFlows limit e s ids (view.push (viewOf e s f))

/-- Adds the flows of launches to a view until it is full. Launches without a cached schedule are passed
over. -/
def collect (c : Cache) (limit : Nat) : List PlannedLaunch → Array UpcomingLaunch → Array UpcomingLaunch
  | [], view => view
  | e :: es, view =>
    match c.schedules.get? e.scheduleId with
    | none => c.collect limit es view
    | some s =>
      match c.collectFlows limit e s (c.flowIdsOf e.scheduleId) view with
      | (view, true) => view
      | (view, false) => c.collect limit es view

/-- All queues as they are, and the removed ones as tombstones. -/
def queueUpdates (c : Cache) (removed : List Int) : List WorkerCommand :=
  (c.queues.values ++ removed.map Queue.tombstone).map .updateQueue

end Cache

namespace Planner

/-- The planner with all launches between the reference and the horizon planned anew; what is not
after the reference stays. -/
def recompute (p : Planner) (reference : Instant) : Planner :=
  let horizon := reference.addNanos p.lookaheadNanos
  { p with
    launches := p.cache.schedules.values.foldl
      (fun l s => l.addAll s.id _ (s.launchesUntil_pairwise horizon reference))
      (p.launches.dropAfter reference)
    refreshAt := reference.addNanos (p.lookaheadNanos / 2) }

/-- The planner with the view of coming launches brought up to date. -/
def publish (p : Planner) : Planner :=
  { p with upcoming := (p.cache.collect p.viewLimit p.launches.entries #[]).toList }

/-- A planner for a cache, with launches planned from an instant on. -/
def ofCache (settings : SchedulerSettings) (cache : Cache) (now : Instant) : Planner :=
  publish <| recompute
    { lookaheadNanos := settings.lookaheadNanos, viewLimit := settings.upcomingViewLimit, cache,
      launches := ∅, reference := now, refreshAt := now, upcoming := [] } now

/-- A planner for the entities of a source. -/
def start (settings : SchedulerSettings) (source : EntitySource) (now : Instant) :
    Except SchedulerError Planner :=
  match Cache.refreshAll {} source with
  | (_, .error e) => .error e
  | (cache, .ok _) => .ok (ofCache settings cache now)

/-- A look at the clock: the due launches become runs, and the others are planned anew if half of the
lookahead has passed. -/
def tick (p : Planner) (now : Instant) : Planner × List WorkerCommand :=
  let commands := (p.launches.due now).flatMap fun e => (p.cache.runsOf e).map .submit
  let q := { p with launches := p.launches.dropDue now, reference := now }
  let q := if p.refreshAt ≤ now then q.recompute now else q
  (q.publish, commands)

/-- A launch by hand of a cached flow. -/
def launchManually (p : Planner) (flowId : Int) (actor : String) (now : Instant) :
    List WorkerCommand :=
  match p.cache.flows.get? flowId with
  | none => []
  | some f => [.submit (p.cache.prepare f (.manual actor ⟨now, 0⟩))]

/-- The cache after a change, or after a change of everything, with reports. -/
def refreshCache (cache : Cache) (source : EntitySource) (change : Option EntityChange) :
    Cache × Except SchedulerError (List RefreshReport) :=
  match change with
  | none => cache.refreshAll source
  | some change =>
    match cache.refresh source change with
    | .error e => (cache, .error e)
    | .ok (cache, report) => (cache, .ok [report])

/-- Takes in a change of entities: the worker gets the queues if queues were refreshed, and launches
are planned anew if schedules or flows were. Nothing follows from a refresh that failed. -/
def applyChange (p : Planner) (source : EntitySource) (change : Option EntityChange) :
    Planner × List WorkerCommand :=
  let (cache, result) := refreshCache p.cache source change
  let q := { p with cache }
  match result with
  | .error _ => (q, [])
  | .ok reports =>
    let commands := reports.flatMap fun r =>
      if r.kind = .queue then cache.queueUpdates r.removedQueues else []
    if reports.any fun r => r.kind = .schedule ∨ r.kind = .taskFlow then
      ((q.recompute q.reference).publish, commands)
    else (q, commands)

end Planner

end FlowScheduler
