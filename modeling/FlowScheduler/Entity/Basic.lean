import FlowScheduler.Calendar.Instant
import FlowScheduler.Entity.NamedArgs
import FlowScheduler.Text.Blank
import FlowScheduler.Text.LetterCase
import FlowScheduler.Word

/-!
The entities that a scheduler works on: agents, tasks, queues and task flows. Schedules stand in
`FlowScheduler.Recurrence.Schedule`.
-/

namespace FlowScheduler

/-- A machine that executes tasks. -/
structure Agent where
  id : Int
  /-- Such as `https://10.0.0.5:8443`. -/
  host : String
  apiKey : String
  /-- The signature of a self-signed certificate that is accepted. -/
  certSignature : Option String := none
  insecure : Bool := false
  deleted : Bool := false
  deriving DecidableEq, Repr

/-- Whether certificates are not verified. -/
def Agent.relaxedTls (a : Agent) : Bool :=
  a.insecure || a.certSignature.any fun s => !Text.isAllBlank s

/-- What a task does. -/
inductive TaskKind where
  /-- Runs a command in a directory. -/
  | command (cmd : String) (args : List String) (startIn : String)
  /-- Checks that a URL answers. -/
  | urlCheck (url : String)
  deriving DecidableEq, Repr

/-- A task. -/
structure Task where
  id : Int
  name : String
  kind : TaskKind
  timeoutMs : Nat := 0
  logStore : String := ""
  /-- The agents that may execute it; the first available one does. -/
  execOn : List Int := []
  deriving DecidableEq, Repr

/-- A queue of runs. -/
structure Queue where
  id : Int
  name : String
  /-- How many runs may be in progress at a time. -/
  slot : Int := 0
  /-- How many runs may be in progress or waiting; 0 is no limit. -/
  maxSize : Int := 0
  maxDuration : Int := 0
  paused : Bool := false
  pausedSince : Option Instant := none
  /-- Queues that exclude this one; declared only. -/
  noExecWhile : List Int := []
  deriving DecidableEq, Repr

namespace Queue

/-- The queue of runs without a queue. -/
def directId : Int := 0

/-- The name of the direct queue. -/
def directName : String := "[Direct]"

/-- The direct queue. -/
def direct (slot : Int) : Queue := { id := directId, name := directName, slot }

/-- The definition that announces the deletion of a queue. -/
def tombstone (id : Int) : Queue := { direct 0 with id, name := "Queue " ++ toString id }

/-- Whether the definition announces a deletion: it has no slot. -/
def isDeleted (q : Queue) : Bool := q.slot == 0

/-- The definition with a trimmed name, at least one slot, no more slots than its size, and no
negative limits. -/
def normalize (q : Queue) : Queue :=
  let maxSize := max q.maxSize 0
  let slot := max q.slot 1
  { q with
    name := Text.trim q.name
    maxSize
    slot := if 0 < maxSize then min slot maxSize else slot
    maxDuration := max q.maxDuration 0 }

end Queue

/-- How a run ended. -/
inductive RunResult where
  | unknown
  | ok
  | fail
  deriving DecidableEq, Repr

namespace RunResult

/-- The number that stands for a result. -/
def code : RunResult → Int
  | unknown => 0
  | ok => 1
  | fail => -1

/-- The result of a number. -/
def ofCode? (n : Int) : Option RunResult :=
  if n = 0 then some unknown else if n = 1 then some ok else if n = -1 then some fail else none

/-- The refusal of a number that stands for no result. -/
def badCode (n : Int) : String := "invalid run result: " ++ toString n

theorem ofCode?_code (r : RunResult) : ofCode? r.code = some r := by cases r <;> rfl

/-- A description of a result. -/
def describe : RunResult → String
  | unknown => "Unknown"
  | ok => "Ok"
  | fail => "Fail"

end RunResult

/-- What is kept of a run that ended. -/
structure RunOutcome where
  startedAt : Option Instant := none
  stoppedAt : Option Instant := none
  result : RunResult := .unknown
  message : String := ""
  deriving DecidableEq, Repr

/-- Where a flow goes after a step. -/
inductive NextStep where
  /-- It ends in failure. -/
  | fail
  /-- It goes to the following step, or ends well after the last. -/
  | sequential
  /-- It goes to the step with this index. -/
  | goto (index : Nat)
  deriving DecidableEq, Repr

namespace NextStep

/-- The number that stands for a pointer. It has 32 bits with a sign, in which greater indices wrap around. -/
def code : NextStep → Int
  | fail => -1
  | sequential => 0
  | goto index => Word.wrapInt32 index

/-- The pointer of a number. -/
def ofCode? (n : Int) : Option NextStep :=
  if n = -1 then some fail
  else if n = 0 then some sequential
  else if 0 < n then some (goto n.toNat)
  else none

/-- The refusal of a number that stands for no pointer. -/
def badCode (n : Int) : String := "invalid next step pointer: " ++ toString n

/-- A description of a pointer. -/
def describe : NextStep → String
  | fail => "Fail"
  | sequential => "Sequential"
  | goto index => "Goto(" ++ toString index ++ ")"

end NextStep

/-- A step of a task flow. -/
structure TaskFlowStep where
  /-- The place of the step, from 1. -/
  index : Nat
  taskId : Int
  nextOnOk : NextStep := .sequential
  nextOnFail : NextStep := .fail
  /-- How often a failed task is tried again. -/
  retry : Nat := 0
  deriving DecidableEq, Repr

/-- A flow of tasks. -/
structure TaskFlow where
  id : Int
  name : String
  tags : List Int := []
  namedArgs : NamedArgs := ∅
  active : Bool := false
  /-- Whether it may be launched by hand. -/
  manualLaunch : Bool := false
  /-- The schedule that launches it; 0 is none. -/
  scheduleId : Int := 0
  errorManagement : Int := 0
  /-- The queue of its runs; 0 is none. -/
  queueId : Int := 0
  lastRun : RunOutcome := {}
  steps : List TaskFlowStep := []
  deriving DecidableEq, Repr

/-- What is wrong with a task flow. -/
inductive TaskFlowFault where
  | noName
  | noSteps
  /-- The steps are not numbered 1, 2, 3, … -/
  | stepOrder
  /-- A step points past the last one. -/
  | badPointer (step target : Nat)
  deriving DecidableEq, Repr

/-- The wording of a fault. -/
def TaskFlowFault.message : TaskFlowFault → String
  | noName => "invalid name"
  | noSteps => "empty taskflow not allowed"
  | stepOrder => "invalid step index order"
  | badPointer step target =>
    "step " ++ toString step ++ " : invalid next step " ++ toString target

namespace TaskFlow

/-- Whether a schedule launches the flow. -/
def isScheduled (f : TaskFlow) : Bool := f.active && decide (0 < f.scheduleId)

/-- The first pointer of a step that points past the last of `count` steps. -/
def badTarget? (count : Nat) (s : TaskFlowStep) : Option Nat :=
  [s.nextOnOk, s.nextOnFail].findSome? fun
    | .goto target => if count < target then some target else none
    | _ => none

/-- The first fault of steps that should be numbered from `place` on. -/
def stepFault? (count : Nat) : (place : Nat) → List TaskFlowStep → Option TaskFlowFault
  | _, [] => none
  | place, s :: rest =>
    if s.index ≠ place then some .stepOrder
    else match badTarget? count s with
      | some target => some (.badPointer place target)
      | none => stepFault? count (place + 1) rest

/-- The first fault of the flow, if it has one. -/
def fault? (f : TaskFlow) : Option TaskFlowFault :=
  if Text.isAllBlank f.name then some .noName
  else if f.steps = [] then some .noSteps
  else stepFault? f.steps.length 1 f.steps

end TaskFlow

/-- The kinds of entities. -/
inductive EntityKind where
  | agent | task | taskFlow | queue | schedule
  deriving DecidableEq, Repr

namespace EntityKind

/-- All kinds, in the order in which they are loaded. -/
def all : List EntityKind := [agent, task, queue, taskFlow, schedule]

/-- The name of a kind in lower case. -/
def label : EntityKind → String
  | agent => "agent" | task => "task" | taskFlow => "taskflow" | queue => "queue"
  | schedule => "schedule"

/-- The name of a kind in documents. -/
def documentName : EntityKind → String
  | agent => "Agent" | task => "Task" | taskFlow => "TaskFlow" | queue => "Queue"
  | schedule => "Schedule"

/-- The kind that a text names, in any case and between blanks; otherwise the refusal. -/
def ofText (text : String) : Except String EntityKind :=
  let name := Text.toLower (Text.trim text)
  match all.find? (·.label == name) with
  | some kind => .ok kind
  | none => .error ("unknown entity kind: " ++ name)

end EntityKind

/-- The notice that entities of a kind have changed: one of them, or any. -/
structure EntityChange where
  kind : EntityKind
  id : Option Int := none
  deriving DecidableEq, Repr

end FlowScheduler
