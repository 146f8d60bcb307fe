import FlowScheduler.Document.Decode
import FlowScheduler.Entity.Basic
import FlowScheduler.Recurrence.Schedule

/-!
Entities in documents: how each is written, and which documents denote it.

Every entity is written with all its fields. A task has the fields of its kind beside its own: the
field `kind` tells which they are.
-/

namespace FlowScheduler

open Document Decode

namespace Document.Value

/-- An instant as a timestamp. -/
def ofInstant (i : Instant) : Value := .text i.toText

/-- A list of integers. -/
def ofIntegers (ns : List Int) : Value := .list (ns.map .integer)

/-- A list of texts. -/
def ofTexts (ss : List String) : Value := .list (ss.map .text)

end Document.Value

/-! ### Agents -/

namespace Agent

/-- The agent as a document. -/
def toValue (a : Agent) : Value := .record [
  ("id", .integer a.id), ("host", .text a.host), ("api_key", .text a.apiKey),
  ("cert_signature", .ofOption .text a.certSignature), ("insecure", .bool a.insecure),
  ("deleted", .bool a.deleted)]

/-- The agent that a document denotes. -/
def ofValue? (format : Format) : Decoder Agent := fun v => do
  let s ← slots format ["id", "host", "api_key", "cert_signature", "insecure", "deleted"] v
  return {
    id := ← s.need "id" int64
    host := ← s.need "host" text
    apiKey := ← s.need "api_key" text
    certSignature := ← s.get "cert_signature" (option text) none
    insecure := ← s.get "insecure" bool false
    deleted := ← s.get "deleted" bool false }

end Agent

/-! ### Tasks -/

namespace TaskKind

/-- The fields of a kind of task. -/
def toFields : TaskKind → List (String × Value)
  | command cmd args startIn =>
    [("kind", .text "command"), ("cmd", .text cmd), ("args", .ofTexts args),
      ("start_in", .text startIn)]
  | urlCheck url => [("kind", .text "url_check"), ("url", .text url)]

/-- The kind of task that fields denote; the others are ignored. JSON may give the kind by its
place. -/
def ofFields? (format : Format) (fields : List (String × Value)) : Option TaskKind := do
  let name ← match ← (unique? "kind" fields).join with
    | .text s => some s
    | .integer n =>
      if format = .json ∧ 0 ≤ n then (["command", "url_check"])[n.toNat]? else none
    | _ => none
  if name = "command" then
    let s ← recordSlots ["cmd", "args", "start_in"] fields
    return command (← s.need "cmd" text) (← s.get "args" (list text) [])
      (← s.get "start_in" text "")
  else if name = "url_check" then
    let s ← recordSlots ["url"] fields
    return urlCheck (← s.need "url" text)
  else none

end TaskKind

namespace Task

/-- The names of a task's own fields. -/
def fieldNames : List String := ["id", "name", "timeout_ms", "log_store", "exec_on"]

/-- How many lists and records JSON texts may nest. -/
def maxDepth : Nat := 127

/-- The task as a document. -/
def toValue (t : Task) : Value := .record <|
  [("id", .integer t.id), ("name", .text t.name)] ++ t.kind.toFields ++
    [("timeout_ms", .integer t.timeoutMs), ("log_store", .text t.logStore),
      ("exec_on", .ofIntegers t.execOn)]

/-- The task that a document denotes, which stands inside `outer` lists and records. The fields that
are not its own must be sound and not nest too deep, as all of them are searched for its kind. -/
def ofValue? (format : Format) (outer : Nat) : Decoder Task
  | .record fields => do
    let s ← recordSlots fieldNames fields
    let others := fields.filter fun f => !fieldNames.contains f.1
    if format = .json ∧ maxDepth < outer + 1 + Value.fieldsDepth others then none
    if !others.all (·.2.isSound) then none
    return {
      id := ← s.need "id" int64
      name := ← s.need "name" text
      kind := ← TaskKind.ofFields? format others
      timeoutMs := ← s.get "timeout_ms" nat64 0
      logStore := ← s.get "log_store" text ""
      execOn := ← s.get "exec_on" (list int64) [] }
  | _ => none

end Task

/-! ### Queues -/

namespace Queue

/-- The queue as a document. -/
def toValue (q : Queue) : Value := .record [
  ("id", .integer q.id), ("name", .text q.name), ("slot", .integer q.slot),
  ("max_size", .integer q.maxSize), ("max_duration", .integer q.maxDuration),
  ("paused", .bool q.paused), ("paused_since", .ofOption .ofInstant q.pausedSince),
  ("no_exec_while", .ofIntegers q.noExecWhile)]

/-- The queue that a document denotes. -/
def ofValue? (format : Format) : Decoder Queue := fun v => do
  let s ← slots format ["id", "name", "slot", "max_size", "max_duration", "paused", "paused_since",
    "no_exec_while"] v
  return {
    id := ← s.need "id" int64
    name := ← s.need "name" text
    slot := ← s.get "slot" int32 0
    maxSize := ← s.get "max_size" int32 0
    maxDuration := ← s.get "max_duration" int64 0
    paused := ← s.get "paused" bool false
    pausedSince := ← s.get "paused_since" (option instant) none
    noExecWhile := ← s.get "no_exec_while" (list int64) [] }

end Queue

/-! ### Runs that ended -/

namespace RunResult

/-- The result that a number denotes. -/
def ofValue? : Decoder RunResult := fun v => (int8 v).bind ofCode?

end RunResult

namespace RunOutcome

/-- The outcome as a document. -/
def toValue (o : RunOutcome) : Value := .record [
  ("started_at", .ofOption .ofInstant o.startedAt),
  ("stopped_at", .ofOption .ofInstant o.stoppedAt), ("result", .integer o.result.code),
  ("message", .text o.message)]

/-- The outcome that a document denotes. -/
def ofValue? (format : Format) : Decoder RunOutcome := fun v => do
  let s ← slots format ["started_at", "stopped_at", "result", "message"] v
  return {
    startedAt := ← s.get "started_at" (option instant) none
    stoppedAt := ← s.get "stopped_at" (option instant) none
    result := ← s.get "result" RunResult.ofValue? .unknown
    message := ← s.get "message" text "" }

end RunOutcome

/-! ### Task flows -/

namespace NextStep

/-- The pointer that a number denotes. -/
def ofValue? : Decoder NextStep := fun v => (int32 v).bind ofCode?

end NextStep

namespace TaskFlowStep

/-- The step as a document. -/
def toValue (s : TaskFlowStep) : Value := .record [
  ("index", .integer s.index), ("task_id", .integer s.taskId),
  ("next_on_ok", .integer s.nextOnOk.code), ("next_on_fail", .integer s.nextOnFail.code),
  ("retry", .integer s.retry)]

/-- The step that a document denotes. -/
def ofValue? (format : Format) : Decoder TaskFlowStep := fun v => do
  let s ← slots format ["index", "task_id", "next_on_ok", "next_on_fail", "retry"] v
  return {
    index := ← s.need "index" nat64
    taskId := ← s.need "task_id" int64
    nextOnOk := ← s.get "next_on_ok" NextStep.ofValue? .sequential
    nextOnFail := ← s.get "next_on_fail" NextStep.ofValue? .fail
    retry := ← s.get "retry" nat32 0 }

end TaskFlowStep

namespace NamedArgs

/-- The arguments as a document. -/
def toValue (args : NamedArgs) : Value := .record (args.entries.map fun (n, v) => (n, .text v))

/-- The arguments that a document denotes; the last of several under one name counts. -/
def ofValue? : Decoder NamedArgs := fun v => (texts v).map ofList

end NamedArgs

namespace TaskFlow

/-- The flow as a document. -/
def toValue (f : TaskFlow) : Value := .record [
  ("id", .integer f.id), ("name", .text f.name), ("tags", .ofIntegers f.tags),
  ("named_args", f.namedArgs.toValue), ("active", .bool f.active),
  ("manual_launch", .bool f.manualLaunch), ("schedule_id", .integer f.scheduleId),
  ("error_management", .integer f.errorManagement), ("queue_id", .integer f.queueId),
  ("last_run", f.lastRun.toValue), ("steps", .list (f.steps.map TaskFlowStep.toValue))]

/-- The flow that a document denotes. -/
def ofValue? (format : Format) : Decoder TaskFlow := fun v => do
  let s ← slots format ["id", "name", "tags", "named_args", "active", "manual_launch",
    "schedule_id", "error_management", "queue_id", "last_run", "steps"] v
  return {
    id := ← s.need "id" int64
    name := ← s.need "name" text
    tags := ← s.get "tags" (list int64) []
    namedArgs := ← s.get "named_args" NamedArgs.ofValue? ∅
    active := ← s.get "active" bool false
    manualLaunch := ← s.get "manual_launch" bool false
    scheduleId := ← s.get "schedule_id" int64 0
    errorManagement := ← s.get "error_management" int32 0
    queueId := ← s.get "queue_id" int64 0
    lastRun := ← s.get "last_run" (RunOutcome.ofValue? format) {}
    steps := ← s.get "steps" (list (TaskFlowStep.ofValue? format)) [] }

end TaskFlow

/-! ### Schedules -/

namespace RuleDefinition

/-- The definition as a document. -/
def toValue (d : RuleDefinition) : Value := .record [
  ("interval", .integer d.interval), ("interval_hours", .text d.intervalHours),
  ("hours", .text d.hours), ("months", .text d.months), ("week_days", .text d.weekDays),
  ("month_days", .text d.monthDays)]

/-- The definition that a document denotes. -/
def ofValue? (format : Format) : Decoder RuleDefinition := fun v => do
  let s ← slots format
    ["interval", "interval_hours", "hours", "months", "week_days", "month_days"] v
  return {
    interval := ← s.get "interval" int64 0
    intervalHours := ← s.get "interval_hours" text ""
    hours := ← s.get "hours" text ""
    months := ← s.get "months" text ""
    weekDays := ← s.get "week_days" text ""
    monthDays := ← s.get "month_days" text "" }

end RuleDefinition

namespace Schedule

/-- The schedule as a document. -/
def toValue (s : Schedule) : Value := .record [
  ("id", .integer s.id), ("name", .text s.name), ("time_zone", .text s.timeZone),
  ("rules", .list (s.rules.map RuleDefinition.toValue))]

/-- The schedule that a document denotes. -/
def ofValue? (format : Format) : Decoder Schedule := fun v => do
  let s ← slots format ["id", "name", "time_zone", "rules"] v
  return {
    id := ← s.need "id" int64
    name := ← s.need "name" text
    timeZone := ← s.get "time_zone" text ""
    rules := ← s.get "rules" (list (RuleDefinition.ofValue? format)) [] }

end Schedule

/-! ### Changes -/

/-- One of several names, written as a text or as the only field of a record with nothing in it. -/
def Document.Decode.choice (names : List (String × α)) : Decoder α
  | .text s => names.lookup s
  | .record [(s, .null)] => names.lookup s
  | _ => none

namespace EntityKind

/-- The kind that a document denotes. -/
def ofValue? : Decoder EntityKind := choice (all.map fun k => (k.documentName, k))

end EntityKind

namespace EntityChange

/-- The change as a document. -/
def toValue (c : EntityChange) : Value := .record [
  ("kind", .text c.kind.documentName), ("id", .ofOption .integer c.id)]

/-- The change that a document denotes. -/
def ofValue? : Decoder EntityChange := fun v => do
  let s ← slots .json ["kind", "id"] v
  return { kind := ← s.need "kind" EntityKind.ofValue?, id := ← s.getOption "id" int64 }

end EntityChange

end FlowScheduler
