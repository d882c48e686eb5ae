import LayeredConfig.Text.Case
import LayeredConfig.Text.Blank

namespace LayeredConfig

/-- What a source text names, with its blanks trimmed. -/
inductive Source where
  /-- There is no document. -/
  | nothing
  | remote (address : String)
  | file (path : String)
  deriving DecidableEq, Repr

namespace Source

def schemeOf? : List Char → Option (List Char)
  | ':' :: '/' :: '/' :: _ => some []
  | [] => none
  | c :: cs => (schemeOf? cs).map (c :: ·)

def isRemote (text : String) : Bool :=
  match schemeOf? text.toList with
  | none => false
  | some scheme =>
    let scheme := Text.asciiLower (String.ofList scheme)
    scheme == "http" || scheme == "https"

def ofText (text : Option String) : Source :=
  let text := Text.trim (text.getD "")
  if text.isEmpty then .nothing
  else if isRemote text then .remote text
  else .file text

def location : Source → String
  | nothing => ""
  | remote address => address
  | file path => path

end Source

end LayeredConfig
