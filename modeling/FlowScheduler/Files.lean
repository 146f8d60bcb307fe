import FlowScheduler.Text.Pieces

/-!
The files below a directory.

A path leads from the directory downwards, step by step, or from the root if it begins with a slash; it
may stay in place and go back up. Every directory on its way has to be there. The directories around the
one that a path begins in are there, with nothing else known to be in them. A path under which a file or
directory is listed leads to it in any case.
-/

namespace FlowScheduler

/-- Files with their paths and contents. -/
structure Files where
  entries : List (String × String) := []
  /-- The paths of directories; those on the way to a file need not be among them. -/
  directories : List String := []
  deriving DecidableEq, Repr

namespace Files

/-- The steps of a path, without those that stay in place; a path from the root begins with a slash
as its first step. -/
def stepsOf (path : String) : List String :=
  let steps := ((Text.splitAll '/' path.toList).map String.ofList).filter fun s => s ≠ "" && s ≠ "."
  if path.startsWith "/" then "/" :: steps else steps

/-- Whether a path can only lead to a directory: what follows its last slash is nothing, or stays in
place. -/
def endsInDirectory (path : String) : Bool := path.endsWith "/" || path.endsWith "/."

/-- Whether a file is at the end of some steps. -/
def hasFile (f : Files) (steps : List String) : Bool :=
  f.entries.any fun e => stepsOf e.1 == steps

/-- Whether a directory is at the end of some steps. -/
def hasDirectory (f : Files) (steps : List String) : Bool :=
  steps == ["/"] || steps.all (· == "..") ||
    f.directories.any (fun path => steps.isPrefixOf (stepsOf path)) ||
    f.entries.any fun e => steps.isPrefixOf (stepsOf e.1) && steps.length < (stepsOf e.1).length

/-- One directory up. Above the root there is the root. -/
def parent (steps : List String) : List String :=
  if steps == ["/"] then steps
  else if steps.all (· == "..") then steps ++ [".."]
  else steps.dropLast

/-- The steps that a path amounts to, from some place on. -/
def walk? (f : Files) (here : List String) : List String → Option (List String)
  | [] => some here
  | s :: rest =>
    if f.hasDirectory here then walk? f (if s = ".." then parent here else here ++ [s]) rest
    else none

/-- The place that a path leads to. -/
def resolve? (f : Files) (path : String) : Option (List String) :=
  if path.isEmpty then none
  else (walk? f [] (stepsOf path)).filter fun place =>
    if endsInDirectory path then f.hasDirectory place else f.hasFile place || f.hasDirectory place

/-- Whether there is something at a path. -/
def contains (f : Files) (path : String) : Bool :=
  (f.entries.lookup path).isSome || f.directories.contains path || (f.resolve? path).isSome

/-- The content of the file at a path. -/
def read? (f : Files) (path : String) : Option String :=
  f.entries.lookup path <|> (f.resolve? path).bind fun place =>
    (f.entries.find? fun e => stepsOf e.1 == place).map (·.2)

/-- All files and directories of two listings. -/
def union (f g : Files) : Files := ⟨f.entries ++ g.entries, f.directories ++ g.directories⟩

/-- A path of some steps. -/
def pathOf : (steps : List String) → String
  | "/" :: steps => "/" ++ "/".intercalate steps
  | steps => "/".intercalate steps

/-- The path with an ending added to its last name, if it ends in a name. -/
def withEnding? (path ending : String) : Option String :=
  let steps := stepsOf path
  match steps.getLast? with
  | none => none
  | some name =>
    if name = "/" ∨ name = ".." then none
    else some (pathOf (steps.dropLast ++ [name ++ ending]))

end Files

end FlowScheduler
