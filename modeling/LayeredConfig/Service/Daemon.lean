import LayeredConfig.Failure
import LayeredConfig.Files.Path
import LayeredConfig.Service.Host

namespace LayeredConfig.Service

/-- A daemon, and the termination requests that nobody has taken yet. -/
structure Daemon where
  pidFile : Option String
  requests : Nat
  deriving DecidableEq, Repr

namespace Daemon

variable {m : Type → Type} [Monad m]

/-- The directory of the PID file, where the path names one, must be there. -/
def new (host : Host m) (pidFile : Option String) : m (Except Failure Daemon) := do
  match pidFile.bind Files.parent? with
  | none | some "" => return .ok ⟨pidFile, 0⟩
  | some directory =>
    if ← host.isDirectory directory then return .ok ⟨pidFile, 0⟩
    else return .error (.plain ("PID file directory does not exist: " ++ directory))

def terminate (d : Daemon) : Daemon := { d with requests := d.requests + 1 }

def takeRequest (d : Daemon) : Bool × Daemon :=
  (d.requests != 0, { d with requests := d.requests - 1 })

def logTarget : String := "stratum::components::daemon"

def start (host : Host m) (d : Daemon) : m (Except Failure Unit) := do
  host.watchSignals
  match d.pidFile with
  | none => return .ok ()
  | some path =>
    let pid ← host.processId
    match ← host.writeFile path (toString pid ++ "\n") with
    | .error e => return .error ((Failure.ofSystem e).under ("Failed writing PID file: " ++ path))
    | .ok () =>
      host.log ⟨.debug, logTarget, "Wrote PID file " ++ path⟩
      return .ok ()

def stop (host : Host m) (d : Daemon) : m (Except Failure Unit) := do
  match d.pidFile with
  | none => return .ok ()
  | some path =>
    match ← host.removeFile path with
    | .error e => return .error ((Failure.ofSystem e).under ("Failed removing PID file: " ++ path))
    | .ok () => return .ok ()

end Daemon

end LayeredConfig.Service
