import FlowScheduler.Dispatch.Cache
import FlowScheduler.Run.Prepared

/-!
Preparation of runs: a task flow that is launched becomes a run with its queue, its tasks and their
agents. A flow that cannot be launched becomes a run without steps that carries the reason.
-/

namespace FlowScheduler

/-- Why a task flow cannot be launched. -/
inductive LaunchRefusal where
  | manualNotAllowed
  | queueNotFound (id : Int)
  | emptyFlow
  | taskNotFound (id : Int)
  /-- No agent that may execute the task is available. -/
  | agentNotFound (taskId : Int)
  deriving DecidableEq, Repr

/-- The wording of a reason. -/
def LaunchRefusal.message : LaunchRefusal → String
  | manualNotAllowed => "Manual launch is not allowed"
  | queueNotFound id => "Queue ID " ++ toString id ++ " not found"
  | emptyFlow => "Empty taskflow"
  | taskNotFound id => "Task ID " ++ toString id ++ " not found"
  | agentNotFound taskId => "Task ID " ++ toString taskId ++ " : agent not found"

namespace Cache

/-- The first agent that may execute a task, is cached and not deleted. -/
def agentFor? (c : Cache) (t : Task) : Option Agent :=
  (t.execOn.filterMap c.agents.get?).find? fun a => !a.deleted

/-- A step with its task and the agent that is to execute it. -/
def resolveStep (c : Cache) (s : TaskFlowStep) : Except LaunchRefusal PreparedStep :=
  match c.tasks.get? s.taskId with
  | none => .error (.taskNotFound s.taskId)
  | some task =>
    match c.agentFor? task with
    | none => .error (.agentNotFound s.taskId)
    | some agent => .ok {
        index := s.index, task, agent, nextOnOk := s.nextOnOk, nextOnFail := s.nextOnFail,
        retry := s.retry }

/-- All steps in order, or the reason of the first that cannot be resolved. -/
def resolveSteps (c : Cache) : List TaskFlowStep → Except LaunchRefusal (List PreparedStep)
  | [] => .ok []
  | s :: ss =>
    match c.resolveStep s with
    | .error e => .error e
    | .ok p => (c.resolveSteps ss).map (p :: ·)

/-- The name of a flow's queue; ids that are not positive mean the direct queue. -/
def queueName (c : Cache) (queueId : Int) : Except LaunchRefusal String :=
  if Queue.directId < queueId then
    match c.queues.get? queueId with
    | some q => .ok q.name
    | none => .error (.queueNotFound queueId)
  else .ok Queue.directName

/-- The run of a launched flow. The values of its named arguments get their date tags replaced at the
trigger's reference. The reasons against a launch are looked for in the order permission, queue,
emptiness, steps. -/
def prepare (c : Cache) (flow : TaskFlow) (trigger : Trigger) : PreparedRun :=
  let args := flow.namedArgs.mapValues (substituteDateTags trigger.reference)
  let run := { (PreparedRun.ofTrigger flow.id flow.name trigger).withArgs args with
    errorManagement := flow.errorManagement, queueId := flow.queueId }
  if trigger.isManual && !flow.manualLaunch then
    run.reject LaunchRefusal.manualNotAllowed.message
  else match c.queueName flow.queueId with
    | .error e => run.reject e.message
    | .ok queueName =>
      let run := { run with queueName }
      if flow.steps = [] then run.reject LaunchRefusal.emptyFlow.message
      else match c.resolveSteps flow.steps with
        | .error e => run.reject e.message
        | .ok steps => { run with steps }

end Cache

end FlowScheduler
