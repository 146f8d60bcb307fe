import FlowScheduler.Text.Blank
import FlowScheduler.Text.LetterCase
import FlowScheduler.Text.Pieces
import FlowScheduler.Word

/-!
The settings of the program, their defaults, and what makes them invalid.

Main statements: what valid settings promise (`SchedulerSettings.fault?_eq_none_iff` and its like for the
other sections).
-/

namespace FlowScheduler

/-! ### Durations -/

/-- A count of seconds that a span of time can hold: in milliseconds it has to fit 64 bits. -/
def spanSeconds? (seconds : Int) : Option Int :=
  if seconds.natAbs ≤ 9223372036854775 then some seconds else none

/-- A count of 64 bits read with a sign. -/
def signed64 (n : Nat) : Int := (n : Int).bmod Word.nat64End

/-- The greatest number of commands for which there can be room. -/
def maxCommandBuffer : Nat := 2305843009213693951

/-! ### Sections -/

/-- The settings of the scheduler. -/
structure SchedulerSettings where
  /-- Milliseconds between two looks at the clock. -/
  tickIntervalMs : Nat := 1000
  /-- How far ahead launches are planned; they are planned anew after half of it. -/
  lookaheadMinutes : Nat := 30
  /-- How long a stop waits for active runs. -/
  shutdownGraceSeconds : Nat := 6
  shutdownPollIntervalMs : Nat := 200
  /-- How many coming launches are shown. -/
  upcomingViewLimit : Nat := 30
  commandBuffer : Nat := 64
  deriving DecidableEq, Repr

/-- The settings of the worker. -/
structure WorkerSettings where
  housekeepingIntervalMs : Nat := 1000
  /-- How long terminated runs stay in the list. -/
  terminatedRetentionSeconds : Nat := 2
  /-- How many runs without a queue may be in progress. -/
  directQueueSlot : Int := 1000
  commandBuffer : Nat := 64
  deriving DecidableEq, Repr

/-- The settings of the connection to agents. -/
structure AgentSettings where
  pollIntervalMs : Nat := 2000
  requestTimeoutMs : Nat := 2000
  submitMaxAttempts : Nat := 3
  pollMaxAttempts : Nat := 5
  retryBackoffMs : Nat := 1000
  deriving DecidableEq, Repr

/-- The settings of the log. -/
structure ObservabilitySettings where
  logLevel : String := "info"
  logFormat : String := "pretty"
  deriving DecidableEq, Repr

/-- All settings. -/
structure Settings where
  scheduler : SchedulerSettings := {}
  worker : WorkerSettings := {}
  agent : AgentSettings := {}
  observability : ObservabilitySettings := {}
  definitionsPath : String := "config/definitions.toml"
  deriving DecidableEq, Repr

namespace SchedulerSettings

/-- The seconds of the lookahead, if it is a possible span of time. -/
def lookaheadSeconds? (s : SchedulerSettings) : Option Int :=
  spanSeconds? (signed64 s.lookaheadMinutes * 60)

/-- Whether a grace period that begins now ends within the time of the machine's clock, which counts its
seconds in 64 bits with a sign, from the start of the machine `uptimeMs` milliseconds ago. -/
def graceIsPossible (s : SchedulerSettings) (uptimeMs : Nat) : Bool :=
  ((uptimeMs / 1000 + s.shutdownGraceSeconds : Nat) : Int) < Word.int64End

/-- The nanoseconds of the lookahead. -/
def lookaheadNanos (s : SchedulerSettings) : Int :=
  signed64 s.lookaheadMinutes * 60000000000

end SchedulerSettings

namespace WorkerSettings

/-- The seconds for which terminated runs are kept, if they are a possible span of time. -/
def retentionSeconds? (s : WorkerSettings) : Option Int :=
  spanSeconds? (signed64 s.terminatedRetentionSeconds)

/-- The nanoseconds for which terminated runs are kept. -/
def retentionNanos (s : WorkerSettings) : Int :=
  signed64 s.terminatedRetentionSeconds * 1000000000

end WorkerSettings

/-! ### Validity -/

/-- The levels of the log. -/
def logLevels : List String := ["trace", "debug", "info", "warn", "error"]

/-- The formats of the log. -/
def logFormats : List String := ["pretty", "json"]

/-- What is wrong with settings. -/
inductive SettingsFault where
  | tickInterval
  | lookahead (minutes : Nat)
  | shutdownPollInterval
  | schedulerBuffer
  | housekeepingInterval
  | directQueueSlot (slot : Int)
  | workerBuffer
  | pollInterval
  | requestTimeout
  | maxAttempts (submit poll : Nat)
  | logLevel (level : String)
  | logFormat (format : String)
  | definitionsPath
  deriving DecidableEq, Repr

namespace SettingsFault

/-- Texts in quotes between brackets. -/
private def quotedList (ss : List String) : String :=
  "[" ++ Text.joinWith ", " (ss.map fun s => "\"" ++ s ++ "\"") ++ "]"

/-- The wording of a fault, after the section that it is found in. -/
def message : SettingsFault → String
  | tickInterval => "调度器配置验证失败: 调度节拍间隔必须大于0"
  | lookahead minutes => "调度器配置验证失败: 预计算窗口至少为2分钟: " ++ toString minutes
  | shutdownPollInterval => "调度器配置验证失败: 停止检查间隔必须大于0"
  | schedulerBuffer => "调度器配置验证失败: 命令通道容量必须大于0"
  | housekeepingInterval => "Worker配置验证失败: 内务节拍间隔必须大于0"
  | directQueueSlot slot => "Worker配置验证失败: 直连队列槽位必须大于0: " ++ toString slot
  | workerBuffer => "Worker配置验证失败: 命令通道容量必须大于0"
  | pollInterval => "Agent客户端配置验证失败: 轮询间隔必须大于0"
  | requestTimeout => "Agent客户端配置验证失败: 请求超时时间必须大于0"
  | maxAttempts submit poll => "Agent客户端配置验证失败: 最大尝试次数必须大于0: submit=" ++
    toString submit ++ ", poll=" ++ toString poll
  | logLevel level => "可观测性配置验证失败: 无效的日志级别: " ++ level ++ "，支持的级别: " ++
    quotedList logLevels
  | logFormat format => "可观测性配置验证失败: 无效的日志格式: " ++ format ++ "，支持的格式: " ++
    quotedList logFormats
  | definitionsPath => "实体定义文件路径不能为空"

end SettingsFault

/-- The first fault of the scheduler's settings. -/
def SchedulerSettings.fault? (s : SchedulerSettings) : Option SettingsFault :=
  if s.tickIntervalMs = 0 then some .tickInterval
  else if s.lookaheadMinutes < 2 then some (.lookahead s.lookaheadMinutes)
  else if s.shutdownPollIntervalMs = 0 then some .shutdownPollInterval
  else if s.commandBuffer = 0 then some .schedulerBuffer
  else none

theorem SchedulerSettings.fault?_eq_none_iff {s : SchedulerSettings} :
    s.fault? = none ↔ 0 < s.tickIntervalMs ∧ 2 ≤ s.lookaheadMinutes ∧
      0 < s.shutdownPollIntervalMs ∧ 0 < s.commandBuffer := by
  grind [fault?]

/-- The first fault of the worker's settings. -/
def WorkerSettings.fault? (s : WorkerSettings) : Option SettingsFault :=
  if s.housekeepingIntervalMs = 0 then some .housekeepingInterval
  else if s.directQueueSlot ≤ 0 then some (.directQueueSlot s.directQueueSlot)
  else if s.commandBuffer = 0 then some .workerBuffer
  else none

theorem WorkerSettings.fault?_eq_none_iff {s : WorkerSettings} :
    s.fault? = none ↔
      0 < s.housekeepingIntervalMs ∧ 0 < s.directQueueSlot ∧ 0 < s.commandBuffer := by
  grind [fault?]

/-- The first fault of the settings of the connection to agents. -/
def AgentSettings.fault? (s : AgentSettings) : Option SettingsFault :=
  if s.pollIntervalMs = 0 then some .pollInterval
  else if s.requestTimeoutMs = 0 then some .requestTimeout
  else if s.submitMaxAttempts = 0 ∨ s.pollMaxAttempts = 0 then
    some (.maxAttempts s.submitMaxAttempts s.pollMaxAttempts)
  else none

theorem AgentSettings.fault?_eq_none_iff {s : AgentSettings} :
    s.fault? = none ↔ 0 < s.pollIntervalMs ∧ 0 < s.requestTimeoutMs ∧
      0 < s.submitMaxAttempts ∧ 0 < s.pollMaxAttempts := by
  grind [fault?]

/-- The first fault of the settings of the log: a level in any case, a format as it is written. -/
def ObservabilitySettings.fault? (s : ObservabilitySettings) : Option SettingsFault :=
  if Text.toLower s.logLevel ∉ logLevels then some (.logLevel s.logLevel)
  else if s.logFormat ∉ logFormats then some (.logFormat s.logFormat)
  else none

/-- The first fault, section by section. -/
def Settings.fault? (s : Settings) : Option SettingsFault :=
  [s.scheduler.fault?, s.worker.fault?, s.agent.fault?, s.observability.fault?,
    if Text.isAllBlank s.definitionsPath then some .definitionsPath else none].findSome? id

end FlowScheduler
