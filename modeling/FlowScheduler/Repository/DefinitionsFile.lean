import FlowScheduler.Document.Json
import FlowScheduler.Document.Toml.Reader
import FlowScheduler.Entity.ById
import FlowScheduler.Files
import FlowScheduler.Repository.Codec

/-!
Definitions files and the repository over one of them.

A file whose name has the extension `json` holds JSON, any other TOML. The repository keeps the outcomes
of runs in memory and shows them with the task flows; they outlive a new reading of the file. A reading
that fails changes nothing.
-/

namespace FlowScheduler

open Document

/-- Why there are no definitions. -/
inductive DefinitionsError where
  /-- There is no file, or its text denotes no definitions. -/
  | unreadable
  | invalid (fault : DefinitionsFault)
  deriving DecidableEq, Repr

/-! ### Reading a file -/

/-- The extension of a file's name: what follows the last point, which may not be the first
character. -/
def extension? (path : String) : Option String :=
  match (Files.stepsOf path).getLast? with
  | none => none
  | some name =>
    if name = ".." then none
    else match (Text.splitAll '.' name.toList).reverse with
      | last :: before :: earlier =>
        if before.isEmpty && earlier.isEmpty then none else some (String.ofList last)
      | _ => none

/-- The format of the document in a file. -/
def Format.ofPath (path : String) : Format :=
  if (extension? path).any fun e => e.map Char.toLower = "json" then .json else .toml

/-- The value that a text of a format denotes. -/
def readDocument? : Format → String → Option Value
  | .json, text => Json.read? text
  | .toml, text => Toml.read? text

/-- The definitions in a file, if they are valid. -/
def Definitions.ofFile (path content : String) : Except DefinitionsError Definitions :=
  let format := Format.ofPath path
  match (readDocument? format content).bind (Definitions.ofValue? format) with
  | none => .error .unreadable
  | some d =>
    match d.fault? with
    | some f => .error (.invalid f)
    | none => .ok d

/-! ### The repository -/

/-- A repository over a definitions file. -/
structure FileRepository where
  /-- The path of the file; without one there is nothing to read anew. -/
  path : Option String := none
  definitions : Definitions
  /-- The outcome of the last run of each task flow. -/
  outcomes : ById RunOutcome := ∅

namespace FileRepository

/-- The definitions in the file at a path. -/
def readFile (files : Files) (path : String) : Except DefinitionsError Definitions :=
  match files.read? path with
  | some content => Definitions.ofFile path content
  | none => .error .unreadable

/-- The repository over the file at a path. -/
def openFile (files : Files) (path : String) : Except DefinitionsError FileRepository := do
  return { path := some path, definitions := ← readFile files path }

/-- A repository without a file. -/
def ofDefinitions (d : Definitions) : Except DefinitionsError FileRepository :=
  match d.fault? with
  | some f => .error (.invalid f)
  | none => .ok { definitions := d }

/-- The repository after its file has been read anew. -/
def reload (r : FileRepository) (files : Files) : Except DefinitionsError FileRepository :=
  match r.path with
  | none => .ok r
  | some path => do return { r with definitions := ← readFile files path }

/-- The repository with the outcome of a flow's run. -/
def save (r : FileRepository) (flowId : Int) (outcome : RunOutcome) : FileRepository :=
  { r with outcomes := r.outcomes.insert flowId outcome }

/-- The outcome of the last run of a flow. -/
def lastOutcome? (r : FileRepository) (flowId : Int) : Option RunOutcome := r.outcomes.get? flowId

/-- A task flow with the outcome of its last run. -/
def withOutcome (r : FileRepository) (f : TaskFlow) : TaskFlow :=
  match r.lastOutcome? f.id with
  | some outcome => { f with lastRun := outcome }
  | none => f

/-- The definitions with the outcomes of the last runs. -/
def current (r : FileRepository) : Definitions :=
  { r.definitions with flows := r.definitions.flows.map r.withOutcome }

/-- The repository as a source; reading never fails. -/
def source (r : FileRepository) : EntitySource := r.current.source fun _ => none

end FileRepository

end FlowScheduler
