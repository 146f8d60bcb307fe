import FlowScheduler.Config.Settings
import FlowScheduler.Document.Decode

/-!
Settings in documents. Every setting and every section may be missing. How strictly a single setting is
read is up to a `SettingReader`.
-/

namespace FlowScheduler

open Document Decode

/-- How single settings are read; by default no value is taken for one of another kind. -/
structure SettingReader where
  nat64 : Decoder Nat := Decode.nat64
  nat32 : Decoder Nat := Decode.nat32
  int32 : Decoder Int := Decode.int32
  text : Decoder String := Decode.text

namespace SchedulerSettings

/-- The names of the settings in their order. -/
def fieldNames : List String := ["tick_interval_ms", "lookahead_minutes", "shutdown_grace_seconds",
  "shutdown_poll_interval_ms", "upcoming_view_limit", "command_buffer"]

/-- The settings as a document. -/
def toValue (s : SchedulerSettings) : Value := .record [
  ("tick_interval_ms", .integer s.tickIntervalMs),
  ("lookahead_minutes", .integer s.lookaheadMinutes),
  ("shutdown_grace_seconds", .integer s.shutdownGraceSeconds),
  ("shutdown_poll_interval_ms", .integer s.shutdownPollIntervalMs),
  ("upcoming_view_limit", .integer s.upcomingViewLimit),
  ("command_buffer", .integer s.commandBuffer)]

/-- The settings that a document denotes. -/
def ofValue? (r : SettingReader) : Decoder SchedulerSettings := fun v => do
  let s ← slots .toml fieldNames v
  return {
    tickIntervalMs := ← s.get "tick_interval_ms" r.nat64 1000
    lookaheadMinutes := ← s.get "lookahead_minutes" r.nat64 30
    shutdownGraceSeconds := ← s.get "shutdown_grace_seconds" r.nat64 6
    shutdownPollIntervalMs := ← s.get "shutdown_poll_interval_ms" r.nat64 200
    upcomingViewLimit := ← s.get "upcoming_view_limit" r.nat64 30
    commandBuffer := ← s.get "command_buffer" r.nat64 64 }

end SchedulerSettings

namespace WorkerSettings

/-- The names of the settings in their order. -/
def fieldNames : List String := ["housekeeping_interval_ms", "terminated_retention_seconds",
  "direct_queue_slot", "command_buffer"]

/-- The settings as a document. -/
def toValue (s : WorkerSettings) : Value := .record [
  ("housekeeping_interval_ms", .integer s.housekeepingIntervalMs),
  ("terminated_retention_seconds", .integer s.terminatedRetentionSeconds),
  ("direct_queue_slot", .integer s.directQueueSlot),
  ("command_buffer", .integer s.commandBuffer)]

/-- The settings that a document denotes. -/
def ofValue? (r : SettingReader) : Decoder WorkerSettings := fun v => do
  let s ← slots .toml fieldNames v
  return {
    housekeepingIntervalMs := ← s.get "housekeeping_interval_ms" r.nat64 1000
    terminatedRetentionSeconds := ← s.get "terminated_retention_seconds" r.nat64 2
    directQueueSlot := ← s.get "direct_queue_slot" r.int32 1000
    commandBuffer := ← s.get "command_buffer" r.nat64 64 }

end WorkerSettings

namespace AgentSettings

/-- The names of the settings in their order. -/
def fieldNames : List String := ["poll_interval_ms", "request_timeout_ms", "submit_max_attempts",
  "poll_max_attempts", "retry_backoff_ms"]

/-- The settings as a document. -/
def toValue (s : AgentSettings) : Value := .record [
  ("poll_interval_ms", .integer s.pollIntervalMs),
  ("request_timeout_ms", .integer s.requestTimeoutMs),
  ("submit_max_attempts", .integer s.submitMaxAttempts),
  ("poll_max_attempts", .integer s.pollMaxAttempts),
  ("retry_backoff_ms", .integer s.retryBackoffMs)]

/-- The settings that a document denotes. -/
def ofValue? (r : SettingReader) : Decoder AgentSettings := fun v => do
  let s ← slots .toml fieldNames v
  return {
    pollIntervalMs := ← s.get "poll_interval_ms" r.nat64 2000
    requestTimeoutMs := ← s.get "request_timeout_ms" r.nat64 2000
    submitMaxAttempts := ← s.get "submit_max_attempts" r.nat32 3
    pollMaxAttempts := ← s.get "poll_max_attempts" r.nat32 5
    retryBackoffMs := ← s.get "retry_backoff_ms" r.nat64 1000 }

end AgentSettings

namespace ObservabilitySettings

/-- The names of the settings in their order. -/
def fieldNames : List String := ["log_level", "log_format"]

/-- The settings as a document. -/
def toValue (s : ObservabilitySettings) : Value := .record [
  ("log_level", .text s.logLevel), ("log_format", .text s.logFormat)]

/-- The settings that a document denotes. -/
def ofValue? (r : SettingReader) : Decoder ObservabilitySettings := fun v => do
  let s ← slots .toml fieldNames v
  return {
    logLevel := ← s.get "log_level" r.text "info"
    logFormat := ← s.get "log_format" r.text "pretty" }

end ObservabilitySettings

namespace Settings

/-- The section that tells where the definitions are. -/
def definitionsOfValue? (r : SettingReader) : Decoder String := fun v => do
  (← slots .toml ["path"] v).get "path" r.text "config/definitions.toml"

/-- The settings as a document. -/
def toValue (s : Settings) : Value := .record [
  ("scheduler", s.scheduler.toValue), ("worker", s.worker.toValue), ("agent", s.agent.toValue),
  ("observability", s.observability.toValue),
  ("definitions", .record [("path", .text s.definitionsPath)])]

/-- The spans of time that follow from the settings, as a document; nothing if one is impossible. -/
def spansValue? (s : Settings) : Option Value := do
  let lookahead ← s.scheduler.lookaheadSeconds?
  let retention ← s.worker.retentionSeconds?
  return .record [
    ("tick_ms", .integer s.scheduler.tickIntervalMs), ("lookahead_s", .integer lookahead),
    ("grace_ms", .integer (s.scheduler.shutdownGraceSeconds * 1000)),
    ("shutdown_poll_ms", .integer s.scheduler.shutdownPollIntervalMs),
    ("housekeeping_ms", .integer s.worker.housekeepingIntervalMs),
    ("retention_s", .integer retention), ("poll_ms", .integer s.agent.pollIntervalMs),
    ("timeout_ms", .integer s.agent.requestTimeoutMs),
    ("backoff_ms", .integer s.agent.retryBackoffMs)]

/-- The settings that a document denotes. -/
def ofValue? (r : SettingReader) : Decoder Settings := fun v => do
  let s ← slots .toml ["scheduler", "worker", "agent", "observability", "definitions"] v
  return {
    scheduler := ← s.get "scheduler" (SchedulerSettings.ofValue? r) {}
    worker := ← s.get "worker" (WorkerSettings.ofValue? r) {}
    agent := ← s.get "agent" (AgentSettings.ofValue? r) {}
    observability := ← s.get "observability" (ObservabilitySettings.ofValue? r) {}
    definitionsPath := ← s.get "definitions" (definitionsOfValue? r) "config/definitions.toml" }

end Settings

end FlowScheduler
