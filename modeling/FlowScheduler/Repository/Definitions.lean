import FlowScheduler.Repository.Source

/-!
Definitions: all entities that a repository holds, in the order in which they were written.

Valid definitions have ids that are unique within a kind, positive queue ids and sound task flows;
`Definitions.fault?` finds the first fault.
-/

namespace FlowScheduler

/-- The entities of a repository. -/
structure Definitions where
  agents : List Agent := []
  tasks : List Task := []
  queues : List Queue := []
  flows : List TaskFlow := []
  schedules : List Schedule := []
  deriving DecidableEq, Repr

namespace Definitions

/-! ### Lists of things that carry ids -/

/-- The things with an id, or all. -/
def select (key : α → Int) (id : Option Int) (as : List α) : List α :=
  as.filter fun a => id.all (· == key a)

/-- The list with a thing in the place of the first one that has its id, or else at the end. -/
def put (key : α → Int) (a : α) : List α → List α
  | [] => [a]
  | b :: bs => if key b = key a then a :: bs else b :: put key a bs

/-- The list without the things that have an id. -/
def without (key : α → Int) (id : Int) (as : List α) : List α := as.filter (key · != id)

/-! ### Reading -/

/-- The definitions as a source; reading a kind for which `refusal` gives an error fails. -/
def source (d : Definitions) (refusal : EntityKind → Option SchedulerError) : EntitySource :=
  let read {α : Type} (kind : EntityKind) (as : List α) (key : α → Int) (id : Option Int) :
      Except SchedulerError (List α) :=
    match refusal kind with
    | some e => .error e
    | none => .ok (select key id as)
  { agents := read .agent d.agents (·.id)
    tasks := read .task d.tasks (·.id)
    queues := read .queue d.queues (·.id)
    flows := read .taskFlow d.flows (·.id)
    schedules := read .schedule d.schedules (·.id) }

/-- The definitions without the entity of a kind with an id. -/
def remove (d : Definitions) (kind : EntityKind) (id : Int) : Definitions :=
  match kind with
  | .agent => { d with agents := without (·.id) id d.agents }
  | .task => { d with tasks := without (·.id) id d.tasks }
  | .queue => { d with queues := without (·.id) id d.queues }
  | .taskFlow => { d with flows := without (·.id) id d.flows }
  | .schedule => { d with schedules := without (·.id) id d.schedules }

/-! ### Validity -/

/-- The first id that occurred before. -/
def duplicate? (seen : List Int) : List Int → Option Int
  | [] => none
  | id :: ids => if id ∈ seen then some id else duplicate? (id :: seen) ids

theorem duplicate?_eq_none_iff {seen ids : List Int} :
    duplicate? seen ids = none ↔ ids.Nodup ∧ ∀ id ∈ ids, id ∉ seen := by
  induction ids generalizing seen with
  | nil => simp [duplicate?]
  | cons id ids ih =>
    rw [duplicate?]
    split
    · next h => simp [h]
    · next h =>
      rw [ih, List.nodup_cons]
      simp only [List.mem_cons]
      grind

end Definitions

/-- What is wrong with definitions. -/
inductive DefinitionsFault where
  /-- Two entities of a kind have one id. -/
  | duplicateId (kind : EntityKind) (id : Int)
  /-- A queue has an id that is not positive. -/
  | queueId (id : Int)
  /-- A task flow is not sound. -/
  | badFlow (id : Int) (cause : TaskFlowFault)
  deriving DecidableEq, Repr

namespace DefinitionsFault

/-- The wording of a fault. -/
def message : DefinitionsFault → String
  | duplicateId kind id => kind.label ++ " ID 重复: " ++ toString id
  | queueId id => "队列ID必须为正数: " ++ toString id
  | badFlow id cause => "taskflow " ++ toString id ++ " : " ++ cause.message

/-- The error that reports a fault. -/
def toError (f : DefinitionsFault) : SchedulerError := .configuration f.message

end DefinitionsFault

namespace Definitions

/-- A fault if an id occurs twice. -/
def duplicateFault? (kind : EntityKind) (ids : List Int) : Option DefinitionsFault :=
  (duplicate? [] ids).map (.duplicateId kind)

/-- The first fault: repeated ids by kind, then queue ids, then task flows. -/
def fault? (d : Definitions) : Option DefinitionsFault :=
  [duplicateFault? .agent (d.agents.map (·.id)), duplicateFault? .task (d.tasks.map (·.id)),
    duplicateFault? .queue (d.queues.map (·.id)), duplicateFault? .taskFlow (d.flows.map (·.id)),
    duplicateFault? .schedule (d.schedules.map (·.id)),
    d.queues.findSome? (fun q => if q.id ≤ Queue.directId then some (.queueId q.id) else none),
    d.flows.findSome? (fun f => f.fault?.map (.badFlow f.id))].findSome? id

/-- The definitions if they are valid. -/
def validated (d : Definitions) : Except SchedulerError Definitions :=
  match d.fault? with
  | some f => .error f.toError
  | none => .ok d

end Definitions

end FlowScheduler
