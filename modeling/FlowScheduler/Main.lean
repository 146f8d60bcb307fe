import FlowScheduler.CommandLine
import Std.Time.DateTime.Timestamp

/-!
The program.

It reads the settings and the definitions from files, starts the service, and takes the names of signals
from standard input, one a line: `HUP` to read the definitions anew, `INT` or `TERM` to stop. The
service's clock follows the time between signals.
-/

namespace FlowScheduler

/-- The file or directory at a path, if there is one that can be read. -/
def readPath (path : String) : IO Files := do
  try return { entries := [(path, ← IO.FS.readFile path)] }
  catch e => match e with
    | .inappropriateType .. => return { directories := [path] }
    | _ => return {}

/-- The files and directories at some paths that can be read. -/
def readFiles (paths : List String) : IO Files := do
  return (← paths.mapM readPath).foldl Files.union {}

/-- The variables of the environment. -/
def readEnvironment : IO (List (String × String)) := do
  try
    let text ← IO.FS.readFile "/proc/self/environ"
    return (Text.splitAll '\x00' text.toList).filterMap fun cs =>
      let name := cs.takeWhile (· ≠ '=')
      (cs.drop name.length).tail?.map fun value => (String.ofList name, String.ofList value)
  catch _ => return []

/-- The present instant. -/
def readClock : IO Instant := do
  let t ← Std.Time.Timestamp.now
  return (Instant.ofSecond 0).addNanos t.toNanosecondsSinceUnixEpoch.val

/-- The signal that a line names. -/
def ProcessSignal.ofName? (name : String) : Option ProcessSignal :=
  if name = "HUP" then some .hangup
  else if name = "INT" then some .interrupt
  else if name = "TERM" then some .terminate
  else none

/-- Prints a result and answers its exit code. -/
def ProgramResult.report (r : ProgramResult) : IO UInt32 := do
  IO.print r.output
  if let some e := r.error then IO.eprintln ("Error: " ++ e)
  return r.exitCode.toUInt32

/-- Lets the service run until a signal or the end of the input ends it. -/
partial def serveInput (a : Application) (input : IO.FS.Stream) : IO UInt32 := do
  let before ← IO.monoMsNow
  let line ← input.getLine
  let a := a.sleep ((← IO.monoMsNow) - before)
  if line.isEmpty then return 0
  match ProcessSignal.ofName? (Text.trim line) with
  | none => serveInput a input
  | some signal =>
    let files ← readFiles a.repository.path.toList
    let (a, goesOn) := Program.receive files a signal
    if goesOn then serveInput a input else Program.ended.report

/-- Starts the service and lets it run. -/
def runService (options : GivenOptions) : IO UInt32 := do
  let environment ← readEnvironment
  let files ← readFiles (Program.settingsPaths options)
  let definitions ← match Program.settings files environment options with
    | .ok s => readFiles [s.definitionsPath]
    | .error _ => pure {}
  let files := files.union definitions
  match Program.start files environment (← readClock) options with
  | .error result => result.report
  | .ok a => serveInput a (← IO.getStdin)

end FlowScheduler

/-- Does what the arguments ask for. -/
def main (args : List String) : IO UInt32 :=
  match FlowScheduler.Invocation.ofArgs args with
  | .run options => FlowScheduler.runService options
  | invocation => match FlowScheduler.Program.answer? invocation with
    | some result => result.report
    | none => pure 0
