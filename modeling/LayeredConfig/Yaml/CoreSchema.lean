import LayeredConfig.Decimal.Numeral
import LayeredConfig.Document.Basic

namespace LayeredConfig.Yaml

def nullWord (s : String) : Bool := s == "null" || s == "Null" || s == "NULL" || s == "~"

def boolWord? : String → Option Bool
  | "true" | "True" | "TRUE" => some true
  | "false" | "False" | "FALSE" => some false
  | _ => none

/-- Two or more digits of which the first is a zero, after an optional sign. They are text. -/
def isPaddedDigits (cs : List Char) : Bool :=
  let digits := match cs with
    | '-' :: rest | '+' :: rest => rest
    | rest => rest
  1 < digits.length && digits.head? == some '0' && (digits.drop 1).all Char.isDigit

def basedNatural? : List Char → Option Nat
  | '0' :: 'x' :: digits => Decimal.natural? 16 digits
  | '0' :: 'o' :: digits => Decimal.natural? 8 digits
  | '0' :: 'b' :: digits => Decimal.natural? 2 digits
  | digits => Decimal.natural? 10 digits

def integer? (cs : List Char) : Option Int :=
  if isPaddedDigits cs then none
  else match cs with
    | '-' :: rest => (basedNatural? rest).map fun n => -(n : Int)
    | '+' :: rest | rest => (basedNatural? rest).map Int.ofNat

/-- The decimal number of a plain scalar. A number too large to be finite is none. -/
def decimal? (s : String) : Option Decimal.Binary64 :=
  match s with
  | ".inf" | ".Inf" | ".INF" | "+.inf" | "+.Inf" | "+.INF" => some (.infinite false)
  | "-.inf" | "-.Inf" | "-.INF" => some (.infinite true)
  | ".nan" | ".NaN" | ".NAN" => some .nan
  | _ => (Decimal.float? s).filter (·.isFinite)

/-- An integer as a number. Of those beyond 64 bits the ones within 128 bits are refused, and the
rest are read as decimal numbers, if they are decimal. -/
inductive IntegerReading where
  | number (value : Int)
  | refused
  | none

def readInteger (cs : List Char) : IntegerReading :=
  match integer? cs with
  | some i =>
    if -2 ^ 63 ≤ i ∧ i < 2 ^ 64 then .number i
    else if -2 ^ 127 ≤ i ∧ i < 2 ^ 128 then .refused
    else .none
  | none => .none

def plainDocument? (s : String) : Option Document :=
  if s.isEmpty || nullWord s then some .null
  else match boolWord? s with
    | some b => some (.bool b)
    | none => match readInteger s.toList with
      | .number i => some (.number (.integer i))
      | .refused => none
      | .none =>
        match (if isPaddedDigits s.toList then none else decimal? s) with
        | some x => some (.number (.float x))
        | none => some (.string s)

/-- The document of a scalar. A tag of the core schema has to fit the text; any other tag than
these leaves the text as it is. -/
def scalarDocument? (tag : Option String) (text : String) (plain : Bool) : Option Document :=
  match tag with
  | some "tag:yaml.org,2002:bool" => (boolWord? text).map .bool
  | some "tag:yaml.org,2002:int" => match readInteger text.toList with
    | .number i => some (.number (.integer i))
    | _ => none
  | some "tag:yaml.org,2002:float" => (decimal? text).map fun x => .number (.float x)
  | some "tag:yaml.org,2002:null" => if nullWord text then some .null else none
  | some _ => some (.string text)
  | none => if plain then plainDocument? text else some (.string text)

end LayeredConfig.Yaml
