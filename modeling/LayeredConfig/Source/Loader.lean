import LayeredConfig.Failure
import LayeredConfig.Files.Path
import LayeredConfig.Http.Answer
import LayeredConfig.Source.Basic
import LayeredConfig.Text.Utf8
import LayeredConfig.Toml.Reader
import LayeredConfig.Yaml.Reader

namespace LayeredConfig.Source

inductive Language where
  | yaml
  | toml
  deriving DecidableEq, Repr

/-- What sources are read from, and what reads the languages. A reader says why it refuses a
text. -/
structure Reach where
  readFile : String → Except Files.Error ByteArray
  request : Http.Client
  parse : Language → String → Except String Document

inductive Unreachable where
  | file (error : Files.Error)
  | noAnswer
  | status (code : Nat)
  deriving DecidableEq, Repr

def Unreachable.cause : Unreachable → Cause
  | file error => .system error
  | noAnswer => .noAnswer
  | status code => .words ("server answered with status " ++ Http.statusText code)

inductive Malformed where
  | refused (language : Language) (reason : String)
  | notAMapping
  deriving DecidableEq, Repr

def Malformed.cause : Malformed → Cause
  | refused .yaml reason => .notYaml reason
  | refused .toml reason => .notToml reason
  | notAMapping => .words "top level of the document is not a mapping"

inductive LoadError where
  | unreachable (location : String) (reason : Unreachable)
  | malformed (location : String) (reason : Malformed)
  deriving DecidableEq, Repr

def Language.ofPath (path : String) : Language :=
  if (Files.extension? path).map Text.asciiLower = some "toml" then .toml else .yaml

/-- The language of a source; an answer is YAML whatever it says to be. -/
def language : Source → Language
  | file path => .ofPath path
  | _ => .yaml

def fileText (reach : Reach) (path : String) : Except Unreachable String :=
  match reach.readFile path with
  | .error e => .error (.file e)
  | .ok bytes => match Text.decode? bytes with
    | none => .error (.file .notText)
    | some text => .ok text

/-- The text of an answer, read as UTF-8 whatever its bytes are. -/
def answerText (reach : Reach) (address : String) : Except Unreachable String :=
  match reach.request address with
  | none => .error .noAnswer
  | some answer =>
    if !answer.isSuccess then .error (.status answer.status)
    else match answer.body with
      | none => .error .noAnswer
      | some bytes => .ok (Text.decodeLossy bytes)

def text (reach : Reach) : Source → Except Unreachable String
  | nothing => .ok ""
  | remote address => answerText reach address
  | file path => fileText reach path

/-- The readers of the program; they do not say where they stop. -/
def Language.parse : Language → String → Except String Document
  | yaml, text => match Yaml.read? text with
    | some d => .ok d
    | none => .error "not a YAML document"
  | toml, text => match Toml.read? text with
    | some d => .ok d
    | none => .error "not a TOML document"

/-- An empty document counts as the empty mapping. -/
def topLevel : Document → Except Malformed Document
  | .null => .ok (.mapping [])
  | .mapping entries => .ok (.mapping entries)
  | _ => .error .notAMapping

def Reach.document (reach : Reach) (language : Language) (text : String) :
    Except Malformed Document :=
  match reach.parse language text with
  | .error reason => .error (.refused language reason)
  | .ok d => topLevel d

def load (reach : Reach) (source : Source) : Except LoadError Document :=
  match source with
  | nothing => .ok (.mapping [])
  | source => match source.text reach with
    | .error reason => .error (.unreachable source.location reason)
    | .ok text => match reach.document source.language text with
      | .error reason => .error (.malformed source.location reason)
      | .ok d => .ok d

end LayeredConfig.Source
