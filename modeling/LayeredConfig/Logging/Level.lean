import LayeredConfig.Decimal.Numeral
import LayeredConfig.Text.Case

namespace LayeredConfig.Logging

inductive Level where
  | error
  | warn
  | info
  | debug
  | trace
  deriving DecidableEq, Repr

def Level.name : Level → String
  | error => "ERROR"
  | warn => "WARN"
  | info => "INFO"
  | debug => "DEBUG"
  | trace => "TRACE"

/-- The levels from the most urgent one on are numbered from one. -/
def Level.rank : Level → Nat
  | error => 1
  | warn => 2
  | info => 3
  | debug => 4
  | trace => 5

/-- The least urgent level that is still wanted; none if nothing is. -/
abbrev Threshold := Option Level

def Threshold.admits (t : Threshold) (level : Level) : Bool :=
  match t with
  | none => false
  | some least => level.rank ≤ least.rank

def Threshold.ofNumber? : Nat → Option Threshold
  | 0 => some none
  | 1 => some (some .error)
  | 2 => some (some .warn)
  | 3 => some (some .info)
  | 4 => some (some .debug)
  | 5 => some (some .trace)
  | _ => none

def Threshold.ofName? (name : String) : Option Threshold :=
  match Text.asciiLower name with
  | "off" => some none
  | "error" | "" => some (some .error)
  | "warn" => some (some .warn)
  | "info" => some (some .info)
  | "debug" => some (some .debug)
  | "trace" => some (some .trace)
  | _ => none

def Threshold.read? (cs : List Char) : Option Threshold :=
  ((Decimal.unsigned? 10 cs).bind ofNumber?).or (ofName? (String.ofList cs))

structure Line where
  level : Level
  /-- The part of the program that writes it. -/
  target : String
  message : String
  deriving DecidableEq, Repr

end LayeredConfig.Logging
