import LayeredConfig.Decimal.Numeral
import LayeredConfig.Schema.DecodeError
import LayeredConfig.Text.Blank
import LayeredConfig.Text.Utf8

namespace LayeredConfig.Schema

inductive Leaf where
  | string
  | bool
  | integer (kind : IntegerKind)
  | float
  | duration
  | path
  | socketAddress
  | ipAddress
  | logFormat
  deriving DecidableEq, Repr

def Leaf.start : Leaf → Scalar
  | string => .text ""
  | bool => .flag false
  | integer _ => .integer 0
  | float => .float .zero
  | duration => .duration .zero
  | path => .path .empty
  | socketAddress => .socketAddress (.v4 .localhost 80)
  | ipAddress => .ipAddress (.v4 .localhost)
  | logFormat => .logFormat .text

/-- The text of a scalar; booleans read as digits. -/
def scalarText? : Document → Option String
  | .string s => some s
  | .number n => some n.text
  | .bool true => some "1"
  | .bool false => some "0"
  | _ => none

def readBool? (s : String) : Option Bool :=
  match Text.asciiLower (Text.trim s) with
  | "" | "0" | "f" | "false" => some false
  | "1" | "t" | "true" => some true
  | _ => none

def booleanOf? : Document → Option Bool
  | .bool b => some b
  | .number n => some !n.toFloat.isZero
  | .string s => readBool? s
  | _ => none

def wideLow : Int := -2 ^ 127

def wideHigh : Int := 2 ^ 127 - 1

/-- The integer of a text: blank is zero, else decimal digits with an optional sign. -/
def readInteger? (s : String) : Option Int :=
  match Text.trimChars s.toList with
  | [] => some 0
  | cs => (Decimal.signed? 10 cs).filter fun i => wideLow ≤ i ∧ i ≤ wideHigh

def integerOf? : Document → Option Int
  | .bool b => some (if b then 1 else 0)
  | .number n => n.toInt?
  | .string s => readInteger? s
  | _ => none

def clampWide (i : Int) : Int := max wideLow (min i wideHigh)

def readFloat? (s : String) : Option Decimal.Binary64 :=
  match Text.trim s with
  | "" => some .zero
  | t => Decimal.float? t

def floatOf? : Document → Option Decimal.Binary64
  | .bool b => some (if b then .one else .zero)
  | .number n => some n.toFloat
  | .string s => readFloat? s
  | _ => none

def secondsOf? : Number → Option Duration
  | .integer i => if 0 ≤ i then Duration.ofSeconds? i.toNat else none
  | .float _ => none

def readDuration : Document → Except Reason Duration
  | .string s => match Duration.read (Text.trim s) with
    | .ok d => .ok d
    | .error e => .error (.invalidDuration s e)
  | .number n => match secondsOf? n with
    | some d => .ok d
    | none => .error (.invalidSeconds n)
  | other => .error (.expectedDuration other)

def readText {α : Type} (read : String → Except TextError α) (d : Document) : Except Reason α :=
  match scalarText? d with
  | none => .error (.expectedString d)
  | some s => match read (Text.trim s) with
    | .ok x => .ok x
    | .error e => .error (.invalidText s e)

def orElse {α ε : Type} (error : ε) : Option α → Except ε α
  | some x => .ok x
  | none => .error error

def Leaf.read (leaf : Leaf) (d : Document) : Except Reason Scalar :=
  match leaf with
  | string => (orElse (.expectedString d) (scalarText? d)).map .text
  | bool => (orElse (.notBoolean d) (booleanOf? d)).map .flag
  | integer kind => match integerOf? d with
    | none => .error (.notInteger d)
    | some i => if kind.Holds i then .ok (.integer i) else .error (.outOfRange (clampWide i) kind)
  | float => (orElse (.notNumber d) (floatOf? d)).map .float
  | duration => (readDuration d).map .duration
  | path => (readText .ok d).map fun s => .path s.toUTF8
  | socketAddress =>
    (readText (orElse .socketAddress ∘ Network.SocketAddress.read?) d).map .socketAddress
  | ipAddress => (readText (orElse .ipAddress ∘ Network.IpAddress.read?) d).map .ipAddress
  | logFormat => (readText (fun s => (LogFormat.read s).mapError .logFormat) d).map .logFormat

/-- Which documents leave a leaf as it is: null, for most leaves also under tags. -/
def Leaf.keeps (leaf : Leaf) (d : Document) : Bool :=
  match leaf, d with
  | _, .null => true
  | bool, _ | float, _ | duration, _ => false
  | _, d => d.isNull

/-- These have no start content of their own when they are built from a document. -/
def Leaf.isParsed : Leaf → Bool
  | socketAddress | ipAddress | logFormat => true
  | _ => false

def Scalar.encode : Scalar → Document
  | .text s => .string s
  | .flag b => .bool b
  | .integer i => .number (.integer i)
  | .float x => .number (.float x)
  | .duration d => .string d.text
  | .path bytes => .string (Text.decodeLossy bytes)
  | .socketAddress a => .string a.text
  | .ipAddress a => .string a.text
  | .logFormat f => .string f.name

end LayeredConfig.Schema
