import FlowScheduler.AgentApi.Protocol
import FlowScheduler.Entity.Codec

/-!
Requests, replies and statuses as JSON documents.
-/

namespace FlowScheduler

open Document Decode

namespace TaskRequest

/-- The request as a document; its field `type` tells what it asks for. -/
def toValue : TaskRequest → Value
  | command timeoutMs logStore cmd args startIn => .record [
    ("type", .text "CmdTask"), ("timeout_ms", .integer timeoutMs), ("log_store", .text logStore),
    ("cmd", .text cmd), ("args", .ofTexts args), ("start_in", .text startIn)]
  | urlCheck timeoutMs logStore url => .record [
    ("type", .text "URLCheckTask"), ("timeout_ms", .integer timeoutMs),
    ("log_store", .text logStore), ("url", .text url)]

/-- The request of a type, from the other fields. -/
def ofRest? (type : String) (rest : Value) : Option TaskRequest := do
  if type = "CmdTask" then
    let s ← slots .json ["timeout_ms", "log_store", "cmd", "args", "start_in"] rest
    return command (← s.need "timeout_ms" nat64) (← s.need "log_store" text)
      (← s.need "cmd" text) (← s.need "args" (list text)) (← s.need "start_in" text)
  else if type = "URLCheckTask" then
    let s ← slots .json ["timeout_ms", "log_store", "url"] rest
    return urlCheck (← s.need "timeout_ms" nat64) (← s.need "log_store" text)
      (← s.need "url" text)
  else none

/-- The request that a document denotes. The type may stand in a record or first in a list; all
other parts must be sound and not nest too deep. -/
def ofValue? : Decoder TaskRequest
  | .record fields => do
    let type ← (← (unique? "type" fields).join) |> text
    let rest := fields.filter (·.1 != "type")
    if Task.maxDepth < 1 + Value.fieldsDepth rest ∨ !rest.all (·.2.isSound) then none
    ofRest? type (.record rest)
  | .list (type :: rest) => do
    if Task.maxDepth < 1 + Value.listDepth rest ∨ !rest.all Value.isSound then none
    ofRest? (← text type) (.list rest)
  | _ => none

end TaskRequest

namespace SubmitReply

/-- The reply as a document. -/
def toValue (r : SubmitReply) : Value := .record [
  ("id", .integer r.id), ("message", .text r.message)]

/-- The reply that a document denotes. -/
def ofValue? : Decoder SubmitReply := fun v => do
  let s ← slots .json ["id", "message"] v
  return { id := ← s.need "id" int64, message := ← s.get "message" text "" }

end SubmitReply

namespace TaskStatus

/-- The status as a document. -/
def toValue (t : TaskStatus) : Value := .record [
  ("id", .integer t.id), ("on_register", .bool t.onRegister), ("terminated", .bool t.terminated),
  ("result", .bool t.result), ("result_info", .text t.resultInfo),
  ("duration_ms", .integer t.durationMs), ("message", .text t.message)]

/-- The status that a document denotes; every field may be missing. -/
def ofValue? : Decoder TaskStatus := fun v => do
  let s ← slots .json ["id", "on_register", "terminated", "result", "result_info", "duration_ms",
    "message"] v
  return {
    id := ← s.get "id" int64 0
    onRegister := ← s.get "on_register" bool false
    terminated := ← s.get "terminated" bool false
    result := ← s.get "result" bool false
    resultInfo := ← s.get "result_info" text ""
    durationMs := ← s.get "duration_ms" int64 0
    message := ← s.get "message" text "" }

end TaskStatus

end FlowScheduler
