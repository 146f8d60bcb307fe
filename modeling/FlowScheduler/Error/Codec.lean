import FlowScheduler.Document.Decode
import FlowScheduler.Error

/-!
Errors in documents: the name of their kind beside their wording.
-/

namespace FlowScheduler

open Document Decode

namespace SchedulerError

/-- The name of an error's kind. -/
def kindName : SchedulerError → String
  | invalidRecurrence .. => "InvalidRecurrence"
  | invalidSchedule .. => "InvalidSchedule"
  | network _ => "Network"
  | agentProtocol _ => "AgentProtocol"
  | repository _ => "Repository"
  | configuration _ => "Configuration"
  | channelClosed _ => "ChannelClosed"

/-- The error as a document. -/
def toValue (e : SchedulerError) : Value := .record [
  ("error", .text e.kindName), ("message", .text e.message)]

/-- The error of a kind, with the parts that its kind has. -/
def ofKind? (kind message field : String) (id : Int) : Option SchedulerError :=
  match kind with
  | "InvalidRecurrence" => some (invalidRecurrence field message)
  | "InvalidSchedule" => some (invalidSchedule id message)
  | "Network" => some (network message)
  | "AgentProtocol" => some (agentProtocol message)
  | "Repository" => some (repository message)
  | "Configuration" => some (configuration message)
  | "ChannelClosed" => some (channelClosed message)
  | _ => none

/-- The error that a document denotes by its parts; by default it is a network error. -/
def ofValue? : Decoder SchedulerError := fun v => do
  let s ← slots .json ["kind", "message", "field", "id"] v
  ofKind? (← s.get "kind" text "Network") (← s.get "message" text "") (← s.get "field" text "")
    (← s.get "id" int64 0)

end SchedulerError

end FlowScheduler
