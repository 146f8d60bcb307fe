import FlowScheduler.Entity.ById
import FlowScheduler.Repository.Source

/-!
The cache of entities that a scheduler works with.

A refresh replaces all entities of a kind, or the one with an id, by what the source lists. Queues are
kept normalised and schedules compiled; a schedule that cannot be compiled is left out. The links from
schedules to the flows that they launch are made anew whenever either of the two is refreshed. A refresh
that fails changes nothing.
-/

namespace FlowScheduler

/-- The entities in use, by id. -/
structure Cache where
  agents : ById Agent := ∅
  tasks : ById Task := ∅
  queues : ById Queue := ∅
  flows : ById TaskFlow := ∅
  schedules : ById CompiledSchedule := ∅
  /-- The ids of the flows that a schedule launches, under its id. -/
  links : ById (List Int) := ∅
  deriving DecidableEq, Repr

/-- What a refresh did. -/
structure RefreshReport where
  kind : EntityKind
  /-- The queues that were cached before and are not any more. -/
  removedQueues : List Int := []
  deriving DecidableEq, Repr

/-- The map with everything, or what stands under one id, replaced by a list. -/
def ById.refresh (key : α → Int) (id : Option Int) (as : List α) (m : ById α) : ById α :=
  match id with
  | none => ById.ofList key as
  | some id => (m.erase id).insertAll key as

namespace Cache

/-- The compiled form of the schedules that can be compiled. -/
def compiled (schedules : List Schedule) : List CompiledSchedule :=
  schedules.filterMap fun s => s.compile.toOption

/-- The links between cached schedules and the flows that they launch, in ascending order: the active
ones that are bound to them. -/
def linksOf (flows : ById TaskFlow) (schedules : ById CompiledSchedule) : ById (List Int) :=
  let bound := flows.values.filter fun f => f.isScheduled && schedules.contains f.scheduleId
  (bound.foldl (fun links f => ById.push links f.scheduleId f.id) ∅).map fun ids => ids.mergeSort

/-- The cache with its links made anew. -/
def relink (c : Cache) : Cache := { c with links := linksOf c.flows c.schedules }

/-- The ids of the flows that a schedule launches. -/
def flowIdsOf (c : Cache) (scheduleId : Int) : List Int := (c.links.get? scheduleId).getD []

/-- The flows that a schedule launches, as far as they are cached. -/
def flowsOf (c : Cache) (scheduleId : Int) : List TaskFlow :=
  (c.flowIdsOf scheduleId).filterMap c.flows.get?

/-- The cache after a refresh from a source, with a report. -/
def refresh (c : Cache) (source : EntitySource) (change : EntityChange) :
    Except SchedulerError (Cache × RefreshReport) :=
  match change.kind with
  | .agent => do
    let agents ← source.agents change.id
    return ({ c with agents := c.agents.refresh (·.id) change.id agents }, { kind := .agent })
  | .task => do
    let tasks ← source.tasks change.id
    return ({ c with tasks := c.tasks.refresh (·.id) change.id tasks }, { kind := .task })
  | .taskFlow => do
    let flows ← source.flows change.id
    return (relink { c with flows := c.flows.refresh (·.id) change.id flows }, { kind := .taskFlow })
  | .queue => do
    let queues ← source.queues change.id
    let now := c.queues.refresh (·.id) change.id (queues.map Queue.normalize)
    return ({ c with queues := now },
      { kind := .queue, removedQueues := c.queues.ids.filter fun id => !now.contains id })
  | .schedule => do
    let schedules ← source.schedules change.id
    return (relink { c with
        schedules := c.schedules.refresh (·.id) change.id (compiled schedules) },
      { kind := .schedule })

/-- Refreshes kind after kind until one fails; what was refreshed before stays refreshed. -/
def refreshKinds (source : EntitySource) :
    List EntityKind → Cache → Cache × Except SchedulerError (List RefreshReport)
  | [], c => (c, .ok [])
  | kind :: kinds, c =>
    match c.refresh source { kind } with
    | .error e => (c, .error e)
    | .ok (c, report) =>
      let (c, rest) := refreshKinds source kinds c
      (c, rest.map (report :: ·))

/-- Refreshes all kinds. -/
def refreshAll (c : Cache) (source : EntitySource) :
    Cache × Except SchedulerError (List RefreshReport) :=
  refreshKinds source EntityKind.all c

end Cache

end FlowScheduler
