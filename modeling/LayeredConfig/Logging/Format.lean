import LayeredConfig.Text.Case

namespace LayeredConfig

inductive LogFormat where
  | text
  | json
  deriving DecidableEq, Repr, Inhabited

namespace LogFormat

def name : LogFormat → String
  | text => "text"
  | json => "json"

/-- Reads a format's name in any case; a name that is none is given back in lower case. -/
def read (s : String) : Except String LogFormat :=
  match Text.asciiLower s with
  | "text" => .ok text
  | "json" => .ok json
  | other => .error other

def unknownMessage (name : String) : String :=
  "unknown log format '" ++ name ++ "' (expected text or json)"

end LogFormat

end LayeredConfig
