import LayeredConfig.Logging.Format
import LayeredConfig.Logging.Level

namespace LayeredConfig.Logging

def jsonChar (c : Char) : List Char :=
  if c = '\x22' ∨ c = '\\' then ['\\', c]
  else if c = '\n' then ['\\', 'n']
  else if c = '\r' then ['\\', 'r']
  else if c = '\t' then ['\\', 't']
  else if c.toNat < 0x20 then
    let digits := Nat.toDigits 16 c.toNat
    ['\\', 'u'] ++ List.replicate (4 - digits.length) '0' ++ digits
  else [c]

def jsonString (s : String) : String :=
  "\"" ++ String.ofList (s.toList.flatMap jsonChar) ++ "\""

/-- A line without its end. In text the levels are right-aligned. -/
def Line.render (line : Line) : LogFormat → String
  | .text =>
    String.ofList (List.replicate (5 - line.level.name.length) ' ') ++ line.level.name ++ " " ++
      line.target ++ ": " ++ line.message
  | .json =>
    "\x7b\"level\":" ++ jsonString line.level.name ++ ",\"fields\":\x7b\"message\":" ++
      jsonString line.message ++ "\x7d,\"target\":" ++ jsonString line.target ++ "\x7d"

end LayeredConfig.Logging
