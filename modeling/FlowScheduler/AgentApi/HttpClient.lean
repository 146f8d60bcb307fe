import FlowScheduler.AgentApi.Codec
import FlowScheduler.AgentApi.HttpStatus
import FlowScheduler.Config.Settings
import FlowScheduler.Document.Json
import FlowScheduler.Error

/-!
The connection to agents over HTTP.

A request is sent again, after a pause, while it gets no response and attempts are left. The first
response decides, whatever its status: a request for a task has to be accepted with status 202 and a
positive id, a question for a status has to be answered with 200. Anything else is against the protocol.
-/

namespace FlowScheduler

open Document

namespace Http

/-- A request to an agent. -/
structure Request where
  method : String
  url : String
  /-- The key that the agent knows its callers by. -/
  apiKey : String
  body : Option Value := none

/-- A response of an agent. -/
structure Response where
  status : Nat
  /-- The body; of a body that did not arrive there is nothing to read. -/
  body : String
  /-- What the library has to say where the body is not what was asked for. -/
  fault : String := ""
  deriving DecidableEq, Repr

/-- What becomes of the attempts to send a request, counted from 0: a response, or the reason why
there is none. -/
abbrev Transport := Nat → Except String Response

/-- How the sending of a request ended. -/
structure Delivery where
  /-- The first response, or the reason of the last failure. -/
  outcome : Except String Response
  /-- How often the request was sent. -/
  sent : Nat
  /-- How often a pause was made. -/
  pauses : Nat

/-- Sends a request until there is a response, at most `more + 1` times, after `sent` attempts and as many
`pauses` as were made between them. -/
def sendFrom (transport : Transport) : (more sent pauses : Nat) → Delivery
  | 0, sent, pauses => ⟨transport sent, sent + 1, pauses⟩
  | more + 1, sent, pauses =>
    match transport sent with
    | .ok response => ⟨.ok response, sent + 1, pauses⟩
    | .error _ => sendFrom transport more (sent + 1) (pauses + 1)

/-- Sends a request until there is a response, but not more often than `maxAttempts`; it is sent at
least once. -/
def send (transport : Transport) (maxAttempts : Nat) : Delivery :=
  sendFrom transport (maxAttempts - 1) 0 0

/-- The response, or the error that reports how often `action` was tried in vain. -/
def Delivery.response (d : Delivery) (action : String) : Except SchedulerError Response :=
  match d.outcome with
  | .ok response => .ok response
  | .error reason => .error (.network
      (action ++ " 失败，已尝试 " ++ toString d.sent ++ " 次: " ++ reason))

/-- Sends a request and reads the first response. -/
def exchange (action : String) (transport : Transport) (maxAttempts : Nat)
    (read : Response → Except SchedulerError α) : Except SchedulerError α := do
  read (← (send transport maxAttempts).response action)

end Http

namespace Agent

/-- The path of the tasks of an agent. -/
def queuePath : String := "/task/queue"

/-- The address of a path at an agent; slashes at the end of the host do not count. -/
def url (a : Agent) (path : String) : String :=
  String.ofList (a.host.toList.reverse.dropWhile (· = '/')).reverse ++ path

/-- The request for the execution of a task. -/
def submitRequest (a : Agent) (r : TaskRequest) : Http.Request :=
  { method := "POST", url := a.url queuePath, apiKey := a.apiKey, body := some r.toValue }

/-- The question for the status of a task. -/
def pollRequest (a : Agent) (remoteId : Int) : Http.Request :=
  { method := "GET", url := a.url (queuePath ++ "/" ++ toString remoteId), apiKey := a.apiKey }

end Agent

namespace Http

/-- The id of the accepted task that a response tells. -/
def Response.acceptedId (r : Response) : Except SchedulerError Int :=
  if r.status ≠ 202 then
    .error (.agentProtocol ("提交任务返回 HTTP " ++ statusText r.status ++ ": " ++ r.body))
  else match (Json.read? r.body).bind SubmitReply.ofValue? with
    | none => .error (.agentProtocol ("解析提交响应失败: " ++ r.fault))
    | some reply =>
      if reply.id ≤ 0 then .error (.agentProtocol
        ("Agent 返回了无效的任务ID " ++ toString reply.id ++ ": " ++ reply.message))
      else .ok reply.id

/-- The status of a task that a response tells. -/
def Response.taskStatus (r : Response) : Except SchedulerError TaskStatus :=
  if r.status ≠ 200 then
    .error (.agentProtocol ("查询任务状态返回 HTTP " ++ statusText r.status ++ ": " ++ r.body))
  else match (Json.read? r.body).bind TaskStatus.ofValue? with
    | none => .error (.agentProtocol ("解析任务状态失败: " ++ r.fault))
    | some status => .ok status

/-- A connection: what becomes of the attempts to send each request. -/
abbrev Connection := Request → Transport

/-- Asks an agent to execute a task: the id that the agent gives it. -/
def submit (settings : AgentSettings) (connection : Connection) (a : Agent) (r : TaskRequest) :
    Except SchedulerError Int :=
  exchange "提交任务" (connection (a.submitRequest r)) settings.submitMaxAttempts Response.acceptedId

/-- Asks an agent for the status of a task. -/
def poll (settings : AgentSettings) (connection : Connection) (a : Agent) (remoteId : Int) :
    Except SchedulerError TaskStatus :=
  exchange "查询任务状态" (connection (a.pollRequest remoteId)) settings.pollMaxAttempts Response.taskStatus

end Http

end FlowScheduler
