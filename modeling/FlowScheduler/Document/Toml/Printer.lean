import FlowScheduler.Document.Toml.Text

/-!
Printing of TOML documents that consist of tables of scalars.
-/

namespace FlowScheduler.Document.Toml

/-- A scalar. Other values have no text of their own here. -/
def scalarText? : Value → Option String
  | .bool b => some (if b then "true" else "false")
  | .integer n => some (toString n)
  | .text s => some (quote s)
  | _ => none

/-- The line of a key without quotes. -/
def entryLine (field : String × Value) : String :=
  match scalarText? field.2 with
  | some t => field.1 ++ " = " ++ t ++ "\n"
  | none => ""

/-- The lines of a table with its header. -/
def tableText (field : String × Value) : String :=
  match field.2 with
  | .record fs => "[" ++ field.1 ++ "]\n" ++ String.join (fs.map entryLine)
  | _ => ""

/-- A document of tables, with an empty line between each two. -/
def renderTables : Value → String
  | .record fs => "\n".intercalate (fs.map tableText)
  | _ => ""

end FlowScheduler.Document.Toml
