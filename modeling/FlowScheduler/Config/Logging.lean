import FlowScheduler.Error
import FlowScheduler.Text.LetterCase

/-!
The format of the log, and its installation, which is possible once.
-/

namespace FlowScheduler

/-- How log entries are written. -/
inductive LogFormat where
  | pretty
  | json
  deriving DecidableEq, Repr

namespace LogFormat

/-- The format that a text names, in any case. -/
def ofText (text : String) : Except SchedulerError LogFormat :=
  if Text.toLower text = "pretty" then .ok pretty
  else if Text.toLower text = "json" then .ok json
  else .error (.configuration ("不支持的日志格式: " ++ text))

end LogFormat

/-- The log of the program, which is installed or not yet. -/
structure Log where
  installed : Option LogFormat := none
  deriving DecidableEq, Repr

/-- Installs the log; it cannot be installed twice. -/
def Log.install (l : Log) (format : LogFormat) : Except SchedulerError Log :=
  match l.installed with
  | none => .ok { installed := some format }
  | some _ => .error (.configuration
      ("初始化日志系统失败: " ++ "a global default trace dispatcher has already been set"))

end FlowScheduler
