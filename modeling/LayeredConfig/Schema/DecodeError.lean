import LayeredConfig.Document.Display
import LayeredConfig.Duration.Reader
import LayeredConfig.Schema.Key
import LayeredConfig.Schema.Value

namespace LayeredConfig.Schema

inductive TextError where
  | socketAddress
  | ipAddress
  | logFormat (name : String)
  deriving DecidableEq, Repr

def TextError.message : TextError → String
  | socketAddress => "invalid socket address syntax"
  | ipAddress => "invalid IP address syntax"
  | logFormat name => LogFormat.unknownMessage name

inductive Reason where
  | expectedMapping (found : Document)
  | expectedString (found : Document)
  | expectedDuration (found : Document)
  | notBoolean (found : Document)
  | notInteger (found : Document)
  | notNumber (found : Document)
  | outOfRange (value : Int) (kind : IntegerKind)
  | invalidDuration (text : String) (error : Duration.ReadError)
  | invalidSeconds (count : Number)
  | invalidText (text : String) (error : TextError)
  | unsupportedKey (key : Document)
  | indexOutOfRange

def Reason.message : Reason → String
  | expectedMapping d => "expected a mapping, got " ++ d.kindName
  | expectedString d => "expected a string, got " ++ d.kindName
  | expectedDuration d => "expected a duration, got " ++ d.kindName
  | notBoolean d => "cannot read " ++ d.display ++ " as a boolean"
  | notInteger d => "cannot read " ++ d.display ++ " as an integer"
  | notNumber d => "cannot read " ++ d.display ++ " as a number"
  | outOfRange value kind => toString value ++ " is out of range for " ++ kind.name
  | invalidDuration text error => "invalid duration " ++ Text.quoted text ++ ": " ++ error.message
  | invalidSeconds count => "invalid duration " ++ count.text
  | invalidText text error => "invalid value " ++ Text.quoted text ++ ": " ++ error.message
  | unsupportedKey key => "unsupported key " ++ key.display
  | indexOutOfRange => "sequence index out of range"

inductive DecodeError where
  | unknownKey (path : String)
  | coercion (path : String) (reason : Reason)

def DecodeError.message : DecodeError → String
  | unknownKey path => "unknown configuration key '" ++ shownPath path ++ "'"
  | coercion path reason =>
    "invalid value for '" ++ shownPath path ++ "': " ++ reason.message

end LayeredConfig.Schema
