import LayeredConfig.Document.Basic
import LayeredConfig.Environment.Variable
import LayeredConfig.Schema.Decode
import LayeredConfig.Text.Blank

/-!
Environment overrides. In a variable's name the program, the command and the keys on the way to a
value stand between underscores: `PROGRAM_COMMAND_MODULE_ELEMENTS_0_NAME`. The variable stands for
the document with that one path, and is decoded onto the configuration after everything else.
-/

namespace LayeredConfig

/-- The two first segments of the variables that count. -/
structure Scope where
  program : String
  command : String
  deriving DecidableEq, Repr

structure Override where
  name : String
  document : Document

/-- The mapping of one entry below each key, from the outside in. -/
def Document.nested : List String → Document → Document
  | [], content => content
  | key :: keys, content => .mapping [(.string key, nested keys content)]

namespace Override

/-- The keys in a name, if it is one of the scope's; ASCII case does not matter to the scope. -/
def segments? (scope : Scope) (name : String) : Option (List String) :=
  match Text.splitAt '_' name with
  | program :: command :: s :: ss =>
    if Text.equalIgnoringCase program scope.program ∧
        Text.equalIgnoringCase command scope.command ∧ (s :: ss).all (!·.isEmpty)
    then some (s :: ss) else none
  | _ => none

def ofVariable? (scope : Scope) (v : Variable) : Option Override :=
  (segments? scope v.name).map fun segments =>
    ⟨v.name, .nested (segments.map Text.lowercase) (.string v.content)⟩

def ofVariables (scope : Scope) (vs : List Variable) : List Override :=
  vs.filterMap (ofVariable? scope)

structure Error where
  name : String
  reason : Schema.DecodeError

def apply (shape : Schema.Shape) (value : Schema.Value) (o : Override) :
    Outcome Error Schema.Value :=
  (shape.decode value o.document "").mapError (⟨o.name, ·⟩)

def applyAll (shape : Schema.Shape) (value : Schema.Value) (os : List Override) :
    Outcome Error Schema.Value :=
  .each (apply shape) value os

end Override

end LayeredConfig
