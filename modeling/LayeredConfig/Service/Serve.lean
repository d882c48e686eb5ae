import LayeredConfig.Lifecycle.Error
import LayeredConfig.Lifecycle.Orchestrator
import LayeredConfig.Resolution.Basic
import LayeredConfig.Service.Daemon
import LayeredConfig.Service.Reporter
import LayeredConfig.Service.Settings

namespace LayeredConfig.Service

open Lifecycle

def programName : String := "stratum"

def programVersion : String := "0.1.0"

structure ServeOptions where
  config : Option String
  check : Bool
  dump : Bool
  verbose : Bool
  deriving DecidableEq, Repr

namespace Serve

variable {m : Type → Type} [Monad m]

def command : String := "serve"

def noticeLevel : Notice Failure → Logging.Level
  | .stopFailed _ _ => .warn
  | .stoppingAll => .info
  | _ => .debug

def tell (host : Host m) (notice : Notice Failure) : m Unit :=
  host.log ⟨noticeLevel notice, "stratum::lifecycle", notice.message⟩

def reporter (host : Host m) (preferred : Option String) : Descriptor m Failure Reporter where
  name := "reporter"
  start := some (Reporter.start host preferred)

def daemon (host : Host m) : Descriptor m Failure Daemon where
  name := "daemon"
  start := some (Daemon.start host)
  stop := some (Daemon.stop host)

def newReporter (host : Host m) (settings : Settings) : m (Except Failure Reporter) :=
  return Reporter.new host.readFilter settings.level settings.format

def newDaemon (host : Host m) (settings : Settings) : m (Except Failure Daemon) := do
  return (← Daemon.new host settings.pidFile).mapError (.under "invalid daemon configuration")

/-- Adds the components, then waits for termination; in check mode they are only constructed. -/
def runComponents (host : Host m) (preferred : Option String) (mode : Mode)
    (settings : Settings) : m (Except Failure Unit) := do
  let o : Orchestrator m Failure := .new mode (tell host)
  match ← o.add (reporter host preferred) (newReporter host settings) with
  | (.error e, o) =>
    o.drop
    return .error e.failure
  | (.ok _, o) =>
    match ← o.add (daemon host) (newDaemon host settings) with
    | (.error e, o) =>
      o.drop
      return .error e.failure
    | (.ok _, o) =>
      match mode with
      | .check => o.drop
      | .run =>
        host.log ⟨.info, "stratum::cli::serve",
          programName ++ " " ++ programVersion ++ " has started"⟩
        o.run host.awaitTermination
      return .ok ()

def effective (options : ServeOptions) (settings : Settings) : Settings :=
  if options.verbose then { settings with level := "debug" } else settings

def run (host : Host m) (environment : List RawVariable) (options : ServeOptions) :
    m (Except Failure Unit) := do
  let request : Request := ⟨options.config, options.dump⟩
  let reach ← host.reach (.ofText options.config)
  let resolution := request.resolve reach Settings.shape command environment
    Settings.default.toValue .unbounded
  host.print resolution.sink.bytes
  match resolution.error with
  | some e => return .error e.failure
  | none =>
    let settings := (Settings.ofValue? resolution.value).getD .default
    let preferred := RawVariable.lookup? environment Reporter.filterVariable
    let mode := if options.check then Mode.check else Mode.run
    runComponents host preferred mode (effective options settings)

end Serve

end LayeredConfig.Service
