import FlowScheduler.Repository.Definitions

/-!
A repository in memory, whose entities can be changed and whose readings and savings can be made to
fail.
-/

namespace FlowScheduler

/-- An entity of any kind. -/
inductive Entity where
  | agent (a : Agent)
  | task (t : Task)
  | queue (q : Queue)
  | flow (f : TaskFlow)
  | schedule (s : Schedule)
  deriving DecidableEq, Repr

/-- The definitions with an entity in the place of the one that has its id, or else at the end. -/
def Definitions.insert (d : Definitions) : Entity → Definitions
  | .agent a => { d with agents := put (·.id) a d.agents }
  | .task t => { d with tasks := put (·.id) t d.tasks }
  | .queue q => { d with queues := put (·.id) q d.queues }
  | .flow f => { d with flows := put (·.id) f d.flows }
  | .schedule s => { d with schedules := put (·.id) s d.schedules }

/-- A repository in memory. -/
structure MemoryRepository where
  definitions : Definitions := {}
  /-- The kinds whose reading fails, with the errors. -/
  readFailures : List (EntityKind × SchedulerError) := []
  /-- The error with which saving fails. -/
  saveFailure : Option SchedulerError := none
  /-- The outcomes in the order in which they were saved, under the ids of their flows. -/
  saved : List (Int × RunOutcome) := []
  deriving DecidableEq, Repr

namespace MemoryRepository

/-- The repository as a source. -/
def source (r : MemoryRepository) : EntitySource :=
  r.definitions.source fun kind => r.readFailures.lookup kind

/-- Makes the reading of some kinds fail, and that of all others succeed. -/
def failReads (r : MemoryRepository) (kinds : List EntityKind)
    (error : EntityKind → SchedulerError) : MemoryRepository :=
  { r with readFailures := kinds.map fun k => (k, error k) }

/-- Makes saving fail or succeed. -/
def failSaves (r : MemoryRepository) (error : Option SchedulerError) : MemoryRepository :=
  { r with saveFailure := error }

/-- Saves the outcome of a flow's run. -/
def save (r : MemoryRepository) (flowId : Int) (outcome : RunOutcome) :
    Except SchedulerError MemoryRepository :=
  match r.saveFailure with
  | some e => .error e
  | none => .ok { r with saved := r.saved ++ [(flowId, outcome)] }

/-- Saves several outcomes; those that cannot be saved are given up. -/
def saveAll (r : MemoryRepository) (saves : List (Int × RunOutcome)) : MemoryRepository :=
  saves.foldl (fun r (flowId, outcome) => (r.save flowId outcome).toOption.getD r) r

end MemoryRepository

end FlowScheduler
