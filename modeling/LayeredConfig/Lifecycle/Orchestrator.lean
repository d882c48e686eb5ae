import LayeredConfig.Lifecycle.Component

namespace LayeredConfig.Lifecycle

/-- The components added so far; `tell` hands notices to whoever observes. -/
structure Orchestrator (m : Type → Type) (ε : Type) where
  mode : Mode
  tell : Notice ε → m Unit
  /-- What runs, most recent first. -/
  started : List (Running m ε)
  /-- The names of what was constructed, in order. -/
  constructed : List String
  /-- The component whose construction or start failed. -/
  failed : Option String

/-- Stops components one after the other; one that fails does not keep the others running. -/
def stopEach {m : Type → Type} [Monad m] {ε : Type} (tell : Notice ε → m Unit) :
    List (Running m ε) → m (List (StopError ε))
  | [] => pure []
  | ⟨_, none⟩ :: rest => stopEach tell rest
  | ⟨name, some stop⟩ :: rest => do
    match ← stop with
    | .ok () =>
      tell (.stopped name)
      stopEach tell rest
    | .error e =>
      tell (.stopFailed name e)
      return ⟨name, e⟩ :: (← stopEach tell rest)

namespace Orchestrator

variable {m : Type → Type} [Monad m] {ε α : Type}

def new (mode : Mode) (tell : Notice ε → m Unit) : Orchestrator m ε := ⟨mode, tell, [], [], none⟩

def running (o : Orchestrator m ε) : List String := o.started.map Running.name

def shutdown (o : Orchestrator m ε) : m (List (StopError ε) × Orchestrator m ε) := do
  let errors ← stopEach o.tell o.started
  return (errors, { o with started := [] })

def fail (o : Orchestrator m ε) (name : String) : m (Orchestrator m ε) := do
  let (errors, o) ← shutdown { o with failed := some name }
  unless errors.isEmpty do o.tell (.unwindFailures errors.length)
  return o

def startHook (o : Orchestrator m ε) (d : Descriptor m ε α) (component : α) :
    m (Except ε Unit) := do
  match d.start with
  | none => return .ok ()
  | some start =>
    match ← start component with
    | .ok () =>
      o.tell (.started d.name)
      return .ok ()
    | .error e => return .error e

def add (o : Orchestrator m ε) (d : Descriptor m ε α) (construct : m (Except ε α)) :
    m (Except (AddError ε) α × Orchestrator m ε) := do
  match o.failed with
  | some failed => return (.error (.refused d.name failed), o)
  | none =>
    match ← construct with
    | .error e => return (.error (.construction d.name e), ← o.fail d.name)
    | .ok component =>
      let o := { o with constructed := o.constructed ++ [d.name] }
      o.tell (.initialized d.name)
      match o.mode with
      | .check => return (.ok component, o)
      | .run =>
        match ← o.startHook d component with
        | .error e => return (.error (.start d.name e), ← o.fail d.name)
        | .ok () =>
          let entry : Running m ε := ⟨d.name, d.stop.map fun stop => stop component⟩
          return (.ok component, { o with started := entry :: o.started })

/-- Gives an orchestrator up; what still runs is stopped. -/
def drop (o : Orchestrator m ε) : m Unit := do
  let _ ← o.shutdown

/-- Waits for termination and stops everything; in check mode there is nothing to wait for. -/
def run (o : Orchestrator m ε) (wait : m Unit) : m Unit := do
  match o.mode with
  | .check => o.drop
  | .run =>
    wait
    o.tell .stoppingAll
    let (_, o) ← o.shutdown
    o.drop

end Orchestrator

end LayeredConfig.Lifecycle
