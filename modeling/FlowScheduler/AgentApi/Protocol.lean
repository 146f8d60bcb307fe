import FlowScheduler.Argument.NamedTag
import FlowScheduler.Entity.Basic

/-!
What the scheduler and an agent tell each other: the request to execute a task, the reply to it, and
the status of a task that was accepted.
-/

namespace FlowScheduler

/-- The request to execute a task. -/
inductive TaskRequest where
  | command (timeoutMs : Nat) (logStore cmd : String) (args : List String) (startIn : String)
  | urlCheck (timeoutMs : Nat) (logStore url : String)
  deriving DecidableEq, Repr

namespace TaskRequest

/-- The command or the URL. -/
def key : TaskRequest → String
  | command _ _ cmd _ _ => cmd
  | urlCheck _ _ url => url

end TaskRequest

/-- The request for a task, with named arguments filled into its arguments. -/
def Task.toRequest (t : Task) (args : NamedArgs) : TaskRequest :=
  match t.kind with
  | .command cmd taskArgs startIn =>
    .command t.timeoutMs t.logStore cmd (taskArgs.map (applyNamedArgs args)) startIn
  | .urlCheck url => .urlCheck t.timeoutMs t.logStore url

/-- The reply to a request that was accepted. -/
structure SubmitReply where
  id : Int
  message : String := ""
  deriving DecidableEq, Repr

/-- The status of a task at an agent. -/
structure TaskStatus where
  id : Int := 0
  /-- Whether the agent knows the task. -/
  onRegister : Bool := false
  terminated : Bool := false
  result : Bool := false
  resultInfo : String := ""
  durationMs : Int := 0
  message : String := ""
  deriving DecidableEq, Repr

end FlowScheduler
