import LayeredConfig.Failure
import LayeredConfig.Lifecycle.Component

namespace LayeredConfig.Lifecycle

inductive Stage where
  | construction
  | start
  | stop
  deriving DecidableEq, Repr

namespace AddError

/-- A refused component was not constructed. -/
def stage {ε : Type} : AddError ε → Stage
  | refused _ _ | construction _ _ => .construction
  | start _ _ => .start

def component {ε : Type} : AddError ε → String
  | refused component _ | construction component _ | start component _ => component

def failure : AddError Failure → Failure
  | refused component failed =>
    Failure.under ("unable to initialize " ++ component ++ " component")
      (.plain (failed ++ " component failed earlier"))
  | construction component e => e.under ("unable to initialize " ++ component ++ " component")
  | start component e => e.under ("unable to start " ++ component ++ " component")

end AddError

def StopError.failure (e : StopError Failure) : Failure :=
  e.error.under ("unable to stop " ++ e.component ++ " component")

def Notice.message : Notice Failure → String
  | initialized component => "Initialized " ++ component ++ " component"
  | started component => "Started " ++ component ++ " component"
  | stopped component => "Stopped " ++ component ++ " component"
  | stopFailed component e =>
    "Unable to stop " ++ component ++ " component, ignoring: " ++ e.line
  | unwindFailures count => toString count ++ " component(s) failed to stop during unwind"
  | stoppingAll => "Stopping all components"

end LayeredConfig.Lifecycle
