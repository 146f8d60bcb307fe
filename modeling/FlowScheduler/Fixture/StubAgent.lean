import FlowScheduler.AgentApi.Protocol
import FlowScheduler.Error

/-!
A stub for an agent: it executes nothing. A task ends at the first look, well unless its key has other
results lined up; it goes on while its key is held, and is unknown once its key is forgotten.
-/

namespace FlowScheduler

/-- A task that the stub accepted. -/
structure StubTask where
  agentId : Int
  remoteId : Int
  request : TaskRequest
  /-- How the task ends. -/
  result : Bool
  deriving DecidableEq, Repr

namespace StubTask

/-- The command or URL of a task. -/
def key (t : StubTask) : String := t.request.key

/-- The status of a task that has ended. -/
def ended (t : StubTask) : TaskStatus where
  id := t.remoteId
  onRegister := true
  terminated := true
  result := t.result
  resultInfo := if t.result then "exit 0" else "exit 1"
  durationMs := 5

end StubTask

/-- A stub for an agent. -/
structure StubAgent where
  /-- The results that are lined up for a key. -/
  results : String → List Bool := fun _ => []
  held : List String := []
  forgotten : List String := []
  /-- How many of the next requests fail. -/
  failing : Nat := 0
  /-- The tasks accepted so far; their ids are 1, 2, … -/
  accepted : List StubTask := []

namespace StubAgent

/-- Lines up results for a key in place of those that are there. -/
def script (a : StubAgent) (key : String) (results : List Bool) : StubAgent :=
  { a with results := fun k => if k = key then results else a.results k }

/-- Holds the tasks of a key. -/
def hold (a : StubAgent) (key : String) : StubAgent := { a with held := key :: a.held }

/-- Lets the tasks of a key end. -/
def release (a : StubAgent) (key : String) : StubAgent :=
  { a with held := a.held.filter (· != key) }

/-- Forgets the tasks of a key. -/
def forget (a : StubAgent) (key : String) : StubAgent := { a with forgotten := key :: a.forgotten }

/-- Lets the next `n` requests fail. -/
def failNext (a : StubAgent) (n : Nat) : StubAgent := { a with failing := n }

/-- Answers a request: the id of the task. -/
def submit (a : StubAgent) (agentId : Int) (request : TaskRequest) :
    StubAgent × Except SchedulerError Int :=
  if 0 < a.failing then
    ({ a with failing := a.failing - 1 },
      .error (.network ("agent " ++ toString agentId ++ " unreachable")))
  else
    let remoteId : Int := a.accepted.length + 1
    let lined := a.results request.key
    let task : StubTask := { agentId, remoteId, request, result := lined.head?.getD true }
    ({ a.script request.key lined.tail with accepted := a.accepted ++ [task] }, .ok remoteId)

/-- The status of a task. -/
def poll (a : StubAgent) (remoteId : Int) : TaskStatus :=
  match a.accepted.find? (·.remoteId == remoteId) with
  | none => { id := remoteId }
  | some t =>
    if t.key ∈ a.forgotten then { id := remoteId }
    else if t.key ∈ a.held then { id := remoteId, onRegister := true }
    else t.ended

/-- How many tasks of a key were accepted. -/
def count (a : StubAgent) (key : String) : Nat := a.accepted.countP (·.key == key)

end StubAgent

end FlowScheduler
