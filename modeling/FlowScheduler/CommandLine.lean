import FlowScheduler.AgentApi.HttpClient
import FlowScheduler.Application
import FlowScheduler.Config.Layered
import FlowScheduler.Config.Logging

/-!
The command line of the program, and what the program does with it.

Arguments are read from left to right; the first that is wrong, or that asks for help or the version,
decides. Options win over the settings from the file and the environment. The program has no network:
every request to an agent fails as the client reports it.
-/

namespace FlowScheduler

/-! ### Arguments -/

/-- The options of the command line. -/
inductive CommandOption where
  | config
  | definitions
  | logLevel
  | logFormat
  deriving DecidableEq, Repr

namespace CommandOption

/-- The option with a long name. -/
def ofLong? (name : String) : Option CommandOption :=
  if name = "config" then some config
  else if name = "definitions" then some definitions
  else if name = "log-level" then some logLevel
  else if name = "log-format" then some logFormat
  else none

/-- The option with a name of one letter. -/
def ofShort? (c : Char) : Option CommandOption :=
  if c = 'c' then some config
  else if c = 'd' then some definitions
  else if c = 'l' then some logLevel
  else none

/-- Whether an option may have a value. -/
def accepts (value : String) : CommandOption → Bool
  | config | definitions => true
  | logLevel => logLevels.contains value
  | logFormat => logFormats.contains value

end CommandOption

/-- The options that were given, with their values. -/
abbrev GivenOptions := List (CommandOption × String)

/-- What a command line asks for. -/
inductive Invocation where
  | help
  | version
  /-- The arguments are wrong. -/
  | misuse
  | run (options : GivenOptions)
  deriving DecidableEq, Repr

namespace Invocation

/-- Takes in the value of an option and goes on. Every option may be given once. -/
def give (option : CommandOption) (value : String) (options : GivenOptions)
    (next : GivenOptions → Invocation) : Invocation :=
  if (options.lookup option).isSome || !option.accepts value then misuse
  else next (options ++ [(option, value)])

/-- Reads an argument of short options after its dash and goes on, with the option that still needs a
value. The first option takes the rest of the argument as its value. -/
def shorts (options : GivenOptions) (next : Option CommandOption → GivenOptions → Invocation) :
    List Char → Invocation
  | [] => next none options
  | c :: cs =>
    if c = 'h' then help
    else if c = 'V' then version
    else match CommandOption.ofShort? c with
      | none => misuse
      | some option =>
        match cs with
        | [] => next (some option) options
        | '=' :: value => give option (String.ofList value) options (next none)
        | value => give option (String.ofList value) options (next none)

/-- Reads an argument of a long option after its dashes and goes on, with the option that still needs
a value. -/
def long (options : GivenOptions) (next : Option CommandOption → GivenOptions → Invocation)
    (cs : List Char) : Invocation :=
  let name := String.ofList (cs.takeWhile (· ≠ '='))
  let value := (cs.dropWhile (· ≠ '=')).tail?.map String.ofList
  match CommandOption.ofLong? name, value with
  | some option, some value => give option value options (next none)
  | some option, none => next (some option) options
  | none, none => if name = "help" then help else if name = "version" then version else misuse
  | none, some _ => misuse

/-- Reads the arguments that are left. `waiting` is the option that needs a value. -/
def read (waiting : Option CommandOption) (options : GivenOptions) : List String → Invocation
  | [] => if waiting.isSome then misuse else run options
  | arg :: args =>
    match arg.toList, waiting with
    | ['-', '-'], _ =>
      -- after two dashes there are only plain arguments, and the program takes none
      if args.isEmpty && waiting.isNone then run options else misuse
    | '-' :: '-' :: cs, none => long options (fun waiting options => read waiting options args) cs
    | '-' :: c :: cs, none =>
      shorts options (fun waiting options => read waiting options args) (c :: cs)
    | '-' :: _ :: _, some _ => misuse
    | _, some option => give option arg options fun options => read none options args
    | _, none => misuse

/-- What arguments ask for. -/
def ofArgs (args : List String) : Invocation := read none [] args

end Invocation

/-! ### The program -/

/-- What a process is told from outside while it runs. -/
inductive ProcessSignal where
  | hangup
  | interrupt
  | terminate
  deriving DecidableEq, Repr

/-- How the program ended. -/
structure ProgramResult where
  exitCode : Nat
  /-- Whether the service was started. -/
  ran : Bool := false
  /-- The wording of the error that ended it. -/
  error : Option String := none
  output : String := ""
  deriving DecidableEq, Repr

namespace Program

/-- The line that names the program and its version. -/
def versionLine : String := "taskflow-scheduler 1.0.0\n"

/-- A description of the arguments. -/
def helpText : String := String.join [
  "分布式任务流调度系统\n\n", "Usage: taskflow-scheduler [OPTIONS]\n\n", "Options:\n",
  "  -c, --config <FILE>        配置文件路径（缺省时查找 config/scheduler.toml）\n",
  "  -d, --definitions <FILE>   实体定义文件路径，覆盖配置中的 definitions.path\n",
  "  -l, --log-level <LEVEL>    ",
  "日志级别，覆盖配置 [possible values: trace, debug, info, warn, error]\n",
  "      --log-format <FORMAT>  日志格式，覆盖配置 [possible values: json, pretty]\n",
  "  -h, --help                 Print help\n",
  "  -V, --version              Print version\n"]

/-- The exit code after an error. -/
def failed (error : String) : ProgramResult := { exitCode := 1, error := some error }

/-- The exit code after a computation that is impossible. -/
def brokenOff : ProgramResult := { exitCode := 101 }

/-- Where the settings of a run may be. -/
def settingsPaths (options : GivenOptions) : List String :=
  match options.lookup .config with
  | some path => path :: (Files.withEnding? path ".toml").toList
  | none => Settings.defaultPaths

/-- The settings with the options of the command line. -/
def withOptions (s : Settings) (options : GivenOptions) : Settings :=
  { s with
    definitionsPath := (options.lookup .definitions).getD s.definitionsPath
    observability := {
      logLevel := (options.lookup .logLevel).getD s.observability.logLevel
      logFormat := (options.lookup .logFormat).getD s.observability.logFormat } }

/-- The settings that the program runs with, or the wording of the error. -/
def settings (files : Files) (environment : List (String × String)) (options : GivenOptions) :
    Except String Settings :=
  let path := options.lookup .config
  match Settings.load files path environment with
  | .error _ => .error ("加载配置失败: " ++ path.getD "<默认路径>")
  | .ok s => (withOptions s options).validated.mapError fun _ => "配置验证失败"

/-- Whether a start can make room for its commands, and all spans of time that it computes are
possible. -/
def isPossible (s : Settings) (now : Instant) : Bool :=
  s.worker.commandBuffer ≤ maxCommandBuffer && s.scheduler.commandBuffer ≤ maxCommandBuffer &&
    s.scheduler.lookaheadSeconds?.any fun seconds =>
      (now.addNanos (seconds * nanosPerSecond)).inCalendar

/-- An agent that cannot be reached: every request ends in the error that the client reports after its
attempts. -/
def unreachable (s : AgentSettings) : ScriptedAgent :=
  let delivery := Http.send (fun _ => .error "no network") s.submitMaxAttempts
  match delivery.response "提交任务" with
  | .error e => { otherwise := .refuse e }
  | .ok _ => {}

/-- Starts the service: the running application, or how the program ended. -/
def start (files : Files) (environment : List (String × String)) (now : Instant)
    (options : GivenOptions) : Except ProgramResult Application := do
  let s ← (settings files environment options).mapError failed
  let format ← (LogFormat.ofText s.observability.logFormat).mapError (failed ·.message)
  let _ ← ({} : Log).install format |>.mapError (failed ·.message)
  -- the program waits for the service a little longer than the grace period
  if Word.nat64End ≤ s.scheduler.shutdownGraceSeconds + 5 then .error brokenOff
  let path := s.definitionsPath
  let _ ← (FileRepository.openFile files path).mapError fun e =>
    failed (ApplicationError.definitions path e).message
  if !isPossible s now then .error brokenOff
  (Application.start s files (unreachable s.agent) now).mapError (failed ·.message)

/-- The service after a signal, and whether it goes on. A reading of the definitions that fails
changes nothing. -/
def receive (files : Files) (a : Application) : ProcessSignal → Application × Bool
  | .hangup => ((a.reload files).toOption.getD a, true)
  | .interrupt | .terminate => (a.stop.1, false)

/-- Takes signals one after another until one ends the service: the service after its end, or nothing
if it still runs. -/
def serve? (files : Files) : Application → List ProcessSignal → Option Application
  | _, [] => none
  | a, signal :: signals =>
    let (a, goesOn) := receive files a signal
    if goesOn then serve? files a signals else some a

/-- The result of an invocation that does not start the service. -/
def answer? : Invocation → Option ProgramResult
  | .help => some { exitCode := 0, output := helpText }
  | .version => some { exitCode := 0, output := versionLine }
  | .misuse => some { exitCode := 2 }
  | .run _ => none

/-- The result of a service that was started and ended. -/
def ended : ProgramResult := { exitCode := 0, ran := true }

/-- Runs the program with its arguments, among files and variables, at an instant, and with signals
once it runs; there is no result if it still runs after them. -/
def run? (files : Files) (environment : List (String × String)) (now : Instant)
    (signals : List ProcessSignal) (args : List String) : Option ProgramResult :=
  match Invocation.ofArgs args with
  | .run options =>
    match start files environment now options with
    | .error result => some result
    | .ok a => (serve? files a signals).map fun _ => ended
  | invocation => answer? invocation

end Program

end FlowScheduler
