namespace LayeredConfig.Lifecycle

/-- Whether components are only constructed or actually run. -/
inductive Mode where
  /-- Construct every component and start none. -/
  | check
  /-- Construct and start every component. -/
  | run
  deriving DecidableEq, Repr

structure Descriptor (m : Type → Type) (ε α : Type) where
  name : String
  start : Option (α → m (Except ε Unit)) := none
  stop : Option (α → m (Except ε Unit)) := none

namespace Descriptor

variable {m : Type → Type} {ε α : Type}

def canStart (d : Descriptor m ε α) : Bool := d.start.isSome

def canStop (d : Descriptor m ε α) : Bool := d.stop.isSome

end Descriptor

structure Running (m : Type → Type) (ε : Type) where
  name : String
  stop : Option (m (Except ε Unit))

inductive AddError (ε : Type) where
  /-- Another component failed before. -/
  | refused (component failed : String)
  | construction (component : String) (error : ε)
  | start (component : String) (error : ε)
  deriving DecidableEq, Repr

structure StopError (ε : Type) where
  component : String
  error : ε
  deriving DecidableEq, Repr

inductive Notice (ε : Type) where
  | initialized (component : String)
  | started (component : String)
  | stopped (component : String)
  | stopFailed (component : String) (error : ε)
  /-- So many components did not stop in order after a failure. -/
  | unwindFailures (count : Nat)
  | stoppingAll
  deriving DecidableEq, Repr

end LayeredConfig.Lifecycle
