import LayeredConfig.Lifecycle.Error
import LayeredConfig.Lifecycle.Orchestrator
import LayeredConfig.Text.Quoted

namespace LayeredConfig.Lifecycle

/-- A constructed component: how many were asked for before it, and its name. -/
structure Handle where
  serial : Nat
  name : String
  deriving DecidableEq, Repr

inductive Event where
  | new (component : Handle) (dependencies : List Handle)
  | start (component : Handle)
  | stop (component : Handle)
  deriving DecidableEq, Repr

def Event.line : Event → String
  | new c ds => "new " ++ c.name ++ " [" ++ " ".intercalate (ds.map Handle.name) ++ "]"
  | start c => "start " ++ c.name
  | stop c => "stop " ++ c.name

/-- What a component is going to do: the names of the components it needs, its hooks, and where it
fails. -/
structure Script where
  name : String
  dependencies : List String
  canStart : Bool
  canStop : Bool
  failNew : Option Failure
  failStart : Option Failure
  failStop : Option Failure

abbrev Journaled := StateM (List Event)

def happen (event : Event) (failure : Option Failure) : Journaled (Except Failure Unit) := do
  modify (· ++ [event])
  match failure with
  | none => return .ok ()
  | some f => return .error f

/-- The latest handle of every name, or the first name without one. -/
def findAll (handles : List Handle) : List String → Except String (List Handle)
  | [] => .ok []
  | name :: names =>
    match handles.find? (·.name = name) with
    | none => .error name
    | some h => (findAll handles names).map (h :: ·)

namespace Script

def descriptor (s : Script) : Descriptor Journaled Failure Handle where
  name := s.name
  start := if s.canStart then some fun h => happen (.start h) s.failStart else none
  stop := if s.canStop then some fun h => happen (.stop h) s.failStop else none

def construct (s : Script) (serial : Nat) (handles : List Handle) :
    Journaled (Except Failure Handle) := do
  match findAll handles s.dependencies with
  | .error name => return .error (.plain ("missing dependency " ++ Text.quoted name))
  | .ok dependencies =>
    let handle : Handle := ⟨serial, s.name⟩
    return (← happen (.new handle dependencies) s.failNew).map fun _ => handle

end Script

inductive Step where
  | add (script : Script)
  | shutdown
  | drop
  /-- Runs until a termination that has been asked for. -/
  | run

inductive StepResult where
  | ok
  | addFailed (error : AddError Failure)
  | stopErrors (errors : List (StopError Failure))
  /-- There was no orchestrator anymore. -/
  | gone

structure Scenario where
  orchestrator : Option (Orchestrator Journaled Failure)
  handles : List Handle
  serial : Nat

namespace Scenario

def begin (mode : Mode) : Scenario := ⟨some (.new mode fun _ => pure ()), [], 0⟩

def step (scenario : Scenario) (s : Step) : Journaled (StepResult × Scenario) := do
  match scenario.orchestrator with
  | none => return (.gone, scenario)
  | some o =>
    match s with
    | .add script =>
      let (result, o) ← o.add script.descriptor (script.construct scenario.serial scenario.handles)
      let serial := scenario.serial + 1
      match result with
      | .ok handle => return (.ok, ⟨some o, handle :: scenario.handles, serial⟩)
      | .error e => return (.addFailed e, ⟨some o, scenario.handles, serial⟩)
    | .shutdown =>
      let (errors, o) ← o.shutdown
      return (.stopErrors errors, { scenario with orchestrator := some o })
    | .drop =>
      o.drop
      return (.ok, { scenario with orchestrator := none })
    | .run =>
      o.run (pure ())
      return (.ok, { scenario with orchestrator := none })

def finish (scenario : Scenario) : Journaled Unit :=
  match scenario.orchestrator with
  | none => pure ()
  | some o => o.drop

structure Report where
  result : StepResult
  /-- What was written down during the step. -/
  events : List Event
  scenario : Scenario

def play (scenario : Scenario) : List Step → List Report × List Event
  | [] => ([], (scenario.finish.run []).2)
  | s :: steps =>
    let ((result, next), events) := (scenario.step s).run []
    let (reports, last) := next.play steps
    (⟨result, events, next⟩ :: reports, last)

end Scenario

end LayeredConfig.Lifecycle
