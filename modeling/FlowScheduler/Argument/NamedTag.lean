import FlowScheduler.Argument.DateTag
import FlowScheduler.Entity.NamedArgs

/-!
Named arguments in the arguments of a task, and the key that identifies a run by them.
-/

namespace FlowScheduler

/-- The tag of a name. -/
def nameTag (name : String) : List Char := DateTag.opening ++ name.toList ++ DateTag.closing

/-- The text with the tag of each name replaced by its value, one name after the other in their
order. -/
def applyEntries (es : List (String × String)) (text : String) : String :=
  String.ofList <| es.foldl
    (fun cs (name, value) => Text.replaceAll (nameTag name) value.toList cs) text.toList

/-- The text with the tag of each name replaced by its value, in the ascending order of the names. -/
def applyNamedArgs (args : NamedArgs) (text : String) : String := applyEntries args.entries text

/-- The key of a run: its task flow and its named arguments. Runs of one key are not active at the
same time. -/
def identityKey (flowId : Int) (args : NamedArgs) : String :=
  args.entries.foldl (fun key (name, value) => key ++ " [" ++ name ++ "=" ++ value ++ "]")
    ("TF" ++ toString flowId)

end FlowScheduler
