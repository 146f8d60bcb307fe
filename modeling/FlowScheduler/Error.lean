/-!
The errors that the scheduler reports, and their wording.
-/

namespace FlowScheduler

/-- An error of the scheduler. -/
inductive SchedulerError where
  /-- A part of a recurrence rule is invalid. -/
  | invalidRecurrence (field message : String)
  /-- A schedule is invalid. -/
  | invalidSchedule (id : Int) (message : String)
  /-- An agent could not be reached. -/
  | network (message : String)
  /-- An agent answered against the protocol. -/
  | agentProtocol (message : String)
  /-- Entities could not be read or written. -/
  | repository (message : String)
  /-- The configuration or the definitions are invalid. -/
  | configuration (message : String)
  /-- The other side of a channel is gone. -/
  | channelClosed (message : String)
  deriving DecidableEq, Repr

namespace SchedulerError

/-- The wording of an error. -/
def message : SchedulerError → String
  | invalidRecurrence field m => "invalid " ++ field ++ " : " ++ m
  | invalidSchedule id m => "无效的调度计划 " ++ toString id ++ ": " ++ m
  | network m => "网络错误: " ++ m
  | agentProtocol m => "Agent协议错误: " ++ m
  | repository m => "仓储错误: " ++ m
  | configuration m => "配置错误: " ++ m
  | channelClosed m => "通道已关闭: " ++ m

/-- Whether trying again may help. -/
def isTransient : SchedulerError → Bool
  | network _ => true
  | _ => false

end SchedulerError

end FlowScheduler
