import LayeredConfig.Files.Error
import LayeredConfig.Text.Blank

namespace LayeredConfig

inductive Cause where
  /-- In the program's own words. -/
  | words (text : String)
  | system (error : Files.Error)
  | notYaml (reason : String)
  | notToml (reason : String)
  /-- No whole answer came from a server. -/
  | noAnswer
  deriving DecidableEq, Repr

def Cause.message : Cause → String
  | words text => text
  | system error => error.message
  | notYaml reason | notToml reason => reason
  | noAnswer => "no answer from the server"

structure Failure where
  top : Cause
  causes : List Cause
  deriving DecidableEq, Repr

namespace Failure

def plain (text : String) : Failure := ⟨.words text, []⟩

def ofSystem (error : Files.Error) : Failure := ⟨.system error, []⟩

def under (text : String) (f : Failure) : Failure := ⟨.words text, f.top :: f.causes⟩

def line (f : Failure) : String := ": ".intercalate ((f.top :: f.causes).map Cause.message)

/-- A cause as a report shows it: further lines are set in like the first. -/
def indented (first further : String) (text : String) : String :=
  first ++ ("\n" ++ further).intercalate (Text.splitAt '\n' text)

/-- The causes as a report shows them; several are numbered. Numbers stand right-aligned in five
columns. -/
def causeLines : List Cause → List String
  | [] => []
  | [c] => [indented "    " "    " c.message]
  | cs => cs.zipIdx.map fun (c, n) =>
    indented (String.ofList (List.leftpad 5 ' ' (toString n).toList) ++ ": ") "       " c.message

def report (f : Failure) : String :=
  "Error: " ++ f.top.message ++
    if f.causes.isEmpty then ""
    else "\n\nCaused by:" ++ String.join ((causeLines f.causes).map ("\n" ++ ·))

end Failure

end LayeredConfig
