import LayeredConfig.Failure
import LayeredConfig.Service.Host

namespace LayeredConfig.Service

structure Reporter where
  level : String
  format : LogFormat
  filter : Logging.Filter

namespace Reporter

/-- The variable whose filter, if it is one, is used in place of the configured one. -/
def filterVariable : String := "RUST_LOG"

def new (readFilter : Logging.FilterReader) (level : String) (format : LogFormat) :
    Except Failure Reporter :=
  match readFilter level with
  | .ok filter => .ok ⟨level, format, filter⟩
  | .error messages => .error
      ⟨.words ("invalid log level '" ++ level ++ "'"), messages.map Cause.words⟩

/-- The filter in use; `preferred` is the content of `filterVariable`. -/
def usedFilter (readFilter : Logging.FilterReader) (r : Reporter) (preferred : Option String) :
    Logging.Filter :=
  match preferred.map readFilter with
  | some (.ok filter) => filter
  | _ => r.filter

def logTarget : String := "stratum::components::reporter"

def start {m : Type → Type} [Monad m] (host : Host m) (preferred : Option String)
    (r : Reporter) : m (Except Failure Unit) := do
  if !(← host.openLog (r.usedFilter host.readFilter preferred) r.format) then
    host.log ⟨.debug, logTarget, "A global subscriber is already installed, keeping it"⟩
  return .ok ()

end Reporter

end LayeredConfig.Service
