import FlowScheduler.Repository.DefinitionsFile
import FlowScheduler.Simulation.System

/-!
The application: the service over a definitions file, on a virtual clock.

The definitions are read at the start and again on demand; a stop waits for the active runs as the
service does.
-/

namespace FlowScheduler

/-- Why the application could not do what it was asked. -/
inductive ApplicationError where
  /-- The definitions at a path could not be loaded at the start. -/
  | definitions (path : String) (cause : DefinitionsError)
  | start (cause : SchedulerError)
  /-- The definitions at a path could not be read anew. -/
  | reload (path : String) (cause : DefinitionsError)
  | refresh (cause : SchedulerError)
  | stop (cause : SchedulerError)
  deriving DecidableEq, Repr

namespace ApplicationError

/-- The wording of an error, without its cause. -/
def message : ApplicationError → String
  | definitions path _ => "加载实体定义失败: " ++ path
  | start _ => "启动调度器失败"
  | reload path _ => "重新加载实体定义失败: " ++ path
  | refresh _ => "通知调度器刷新失败"
  | stop _ => "停止调度器失败"

end ApplicationError

/-- The service over a definitions file. -/
structure Application where
  settings : Settings
  repository : FileRepository
  system : SimulatedSystem

namespace Application

/-- The application at its start, after all that happens at once. -/
def start (settings : Settings) (files : Files) (agent : ScriptedAgent) (startedAt : Instant) :
    Except ApplicationError Application := do
  let path := settings.definitionsPath
  let repository ← (FileRepository.openFile files path).mapError (.definitions path)
  let system ← (SimulatedSystem.start settings repository.source agent {} startedAt).mapError .start
  return { settings, repository, system }

/-- Moves the outcomes that the worker saved into the repository. -/
def settle (a : Application) : Application :=
  let (site, _, saved) := a.system.site.takeRecord
  { a with
    system := { a.system with site }
    repository := saved.foldl (fun r (flowId, outcome) => r.save flowId outcome) a.repository }

/-- Lets time pass. -/
def sleep (a : Application) (ms : Nat) : Application :=
  { a with system := a.system.sleep ms }.settle

/-- Launches a flow by hand. -/
def launchManually (a : Application) (flowId : Int) (actor : String) :
    Except SchedulerError Application :=
  (a.system.launchManually flowId actor).map fun system => { a with system }.settle

/-- Reads the definitions anew and lets the service take in all changes. -/
def reload (a : Application) (files : Files) : Except ApplicationError Application := do
  let path := a.repository.path.getD ""
  let repository ← (a.repository.reload files).mapError (.reload path)
  let system ← (a.system.applyChange repository.source none).mapError .refresh
  return { a with repository, system }

/-- Stops the service. -/
def stop (a : Application) : Application × Except ApplicationError Unit :=
  let (system, answer) := a.system.stop
  ({ a with system }.settle, answer.mapError .stop)

/-- What the dashboard shows. -/
def dashboard (a : Application) : Dashboard := a.system.dashboard

end Application

end FlowScheduler
