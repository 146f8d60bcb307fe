import FlowScheduler.AgentApi.Codec
import FlowScheduler.Error.Codec
import FlowScheduler.Simulation.ScriptedAgent

/-!
Scripted agents in documents. A script names, for each key, what becomes of the requests for it: a record
with `submit_error`, or with the answers under `polls`, each a status or a record with `error`.
-/

namespace FlowScheduler

open Document Decode

/-- The answer to a question for a status that a document denotes. -/
def scriptedPoll? : Decoder (Except SchedulerError TaskStatus) := fun v =>
  match v with
  | .record fields =>
    match fields.lookup "error" with
    | some e => (SchedulerError.ofValue? e).map .error
    | none => (TaskStatus.ofValue? v).map .ok
  | _ => (TaskStatus.ofValue? v).map .ok

/-- What becomes of a request, as a document says. -/
def ScriptedAttempt.ofValue? : Decoder ScriptedAttempt
  | .record fields =>
    match fields.lookup "submit_error", fields.lookup "polls" with
    | some e, _ => (SchedulerError.ofValue? e).map .refuse
    | none, some polls => (list scriptedPoll? polls).map .accept
    | none, none => some (.accept [])
  | _ => none

/-- The agent whose script a document denotes. -/
def ScriptedAgent.ofValue? : Decoder ScriptedAgent
  | .null => some {}
  | .record fields => do
    return { script := ← fields.mapM fun (key, attempts) =>
      (list ScriptedAttempt.ofValue? attempts).map (key, ·) }
  | _ => none

/-- A submission as a document. -/
def Submission.toValue (s : Submission) : Value := .record <|
  [("agent_id", .integer s.agentId), ("request", s.request.toValue)] ++
    match s.remoteId with
    | some id => [("remote_id", .integer id)]
    | none => [("refused", .bool true)]

end FlowScheduler
