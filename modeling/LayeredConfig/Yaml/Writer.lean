import LayeredConfig.Document.Basic
import LayeredConfig.Yaml.CoreSchema
import LayeredConfig.Yaml.Cursor

namespace LayeredConfig.Yaml

def isPrintable (c : Char) : Bool :=
  let n := c.toNat
  n == 0x0A || (0x20 ≤ n && n ≤ 0x7E) || (0xA0 ≤ n && n ≤ 0xFFFD && n != 0xFEFF) || 0x10000 ≤ n

def pairs (cs : List Char) : List (Char × Char) := cs.zip (cs.drop 1)

def hasIndicator (cs : List Char) : Bool :=
  let first := match cs with
    | [] => false
    | c :: rest =>
      "#,[]\x7b\x7d&*!|>\x27\"%@".contains c || c == '\x60' ||
        ((c == '?' || c == ':' || c == '-') && isGap rest.head?)
  let isMarker := cs.take 3 == ['-', '-', '-'] || cs.take 3 == ['.', '.', '.']
  let colon := cs.getLast? == some ':' || (pairs cs).any fun p => p.1 == ':' && isGap (some p.2)
  let hash := (pairs cs).any fun p => isGap (some p.1) && p.2 == '#'
  isMarker || first || colon || hash

def isSpaceChar (c : Char) : Bool := c == ' '

def hasOuterSpacing (cs : List Char) : Bool :=
  let isSpacing (c? : Option Char) : Bool := c?.any fun c => isSpaceChar c || isBreakChar c
  isSpacing cs.head? || isSpacing cs.getLast?

/-- Only escapes can keep a space before a break and characters that do not print. -/
def needsEscapes (cs : List Char) : Bool :=
  cs.any (!isPrintable ·) || (pairs cs).any fun p => isSpaceChar p.1 && isBreakChar p.2

def allowsPlain (cs : List Char) : Bool :=
  !(hasIndicator cs || hasOuterSpacing cs || needsEscapes cs || cs.any isBreakChar)

def allowsSingleQuotes (cs : List Char) : Bool :=
  !(needsEscapes cs || (pairs cs).any fun p => isBreakChar p.1 && isSpaceChar p.2)

def allowsBlock (cs : List Char) : Bool :=
  !(cs.isEmpty || needsEscapes cs || cs.getLast?.any isSpaceChar)

def needsQuotes (s : String) : Bool :=
  match plainDocument? s with
  | some (.string _) => isPaddedDigits s.toList
  | _ => true

def escapeLetter? (c : Char) : Option Char :=
  match c.toNat with
  | 0x00 => some '0' | 0x07 => some 'a' | 0x08 => some 'b' | 0x09 => some 't' | 0x0A => some 'n'
  | 0x0B => some 'v' | 0x0C => some 'f' | 0x0D => some 'r' | 0x1B => some 'e' | 0x22 => some '\x22'
  | 0x5C => some '\\' | 0x85 => some 'N' | 0xA0 => some '_' | 0x2028 => some 'L'
  | 0x2029 => some 'P' | _ => none

def hexDigits (width n : Nat) : List Char :=
  let digits := (Nat.toDigits 16 n).map Char.toUpper
  List.replicate (width - digits.length) '0' ++ digits

def doubleQuotedChar (c : Char) : List Char :=
  if isPrintable c && !isBreakChar c && c != '\x22' && c != '\\' then [c]
  else '\\' :: match escapeLetter? c with
    | some letter => [letter]
    | none =>
      if c.toNat ≤ 0xFF then 'x' :: hexDigits 2 c.toNat
      else if c.toNat ≤ 0xFFFF then 'u' :: hexDigits 4 c.toNat
      else 'U' :: hexDigits 8 c.toNat

def doubleQuoted (cs : List Char) : List Char :=
  '\x22' :: cs.flatMap doubleQuotedChar ++ ['\x22']

def margin (indent : Nat) : List Char := List.replicate indent ' '

/-- The inside of a single-quoted scalar; `broken` says that a break was just written. -/
def singleQuotedFrom (indent : Nat) : Bool → List Char → List Char
  | broken, [] => if broken then margin indent else []
  | broken, c :: cs =>
    if isBreakChar c then
      (if c == '\n' && !broken then ['\n', '\n'] else [c]) ++ singleQuotedFrom indent true cs
    else
      (if broken && !isSpaceChar c then margin indent else []) ++
        (if c == '\x27' then ['\x27', '\x27'] else [c]) ++
        singleQuotedFrom indent (broken && isSpaceChar c) cs

def singleQuoted (indent : Nat) (cs : List Char) : List Char :=
  '\x27' :: singleQuotedFrom indent false cs ++ ['\x27']

def literalFrom (indent : Nat) : Bool → List Char → List Char
  | _, [] => []
  | broken, c :: cs =>
    if isBreakChar c then c :: literalFrom indent true cs
    else (if broken then margin indent else []) ++ c :: literalFrom indent false cs

/-- What the header of a literal block says: the indentation where the first line does not show
it, and what becomes of the breaks at the end. -/
def literalHeader (cs : List Char) : List Char :=
  let indentation := if cs.head?.any fun c => isSpaceChar c || isBreakChar c then ['2'] else []
  let ending := match cs.reverse with
    | [] => ['-']
    | [c] => if isBreakChar c then ['+'] else ['-']
    | c :: d :: _ => if !isBreakChar c then ['-'] else if isBreakChar d then ['+'] else []
  '|' :: indentation ++ ending

def stringChars (indent : Nat) (isKey : Bool) (s : String) : List Char :=
  let cs := s.toList
  if cs.contains '\n' then
    if allowsBlock cs && !isKey then literalHeader cs ++ '\n' :: literalFrom indent true cs
    else doubleQuoted cs
  else if isKey && cs.any isBreakChar then doubleQuoted cs
  else if allowsPlain cs && !needsQuotes s then cs
  else if allowsSingleQuotes cs then singleQuoted indent cs
  else doubleQuoted cs

def endsLine (cs : List Char) : Bool := cs.getLast?.any isBreakChar

def lineBreak (cs : List Char) : List Char := if endsLine cs then cs else cs ++ ['\n']

inductive Place where
  | root
  | item
  | value
  | key
  deriving DecidableEq

def Place.gap : Place → List Char
  | .root => []
  | .item => [' ']
  | .value => [' ']
  | .key => []

def Place.inner (place : Place) (isSequence : Bool) (column : Nat) : Nat :=
  match place with
  | .root => column
  | .value => if isSequence then column else column + 2
  | .item | .key => column + 2

/-- What comes before the first part of a collection: after a dash it starts on the same line. -/
def Place.before (place : Place) (column : Nat) : List Char :=
  match place with
  | .root => []
  | .item => [' ']
  | .key => [' ']
  | .value => '\n' :: margin column

def isSimpleKey : Document → Bool
  | .null | .bool _ | .number _ => true
  | .string s => s.utf8ByteSize ≤ 128 && !s.toList.any isBreakChar
  | .sequence items => items.isEmpty
  | .mapping entries => entries.isEmpty
  | .tagged _ _ => false

mutual

/-- A node at a place, inside a collection at `column`. Its text ends with a line break. -/
def writeNode (column : Nat) (place : Place) : Document → List Char
  | .null => lineBreak (place.gap ++ "null".toList)
  | .bool b => lineBreak (place.gap ++ (toString b).toList)
  | .number n => lineBreak (place.gap ++ n.text.toList)
  | .string s => lineBreak (place.gap ++ stringChars (column + 2) false s)
  | .sequence [] => lineBreak (place.gap ++ "[]".toList)
  | .sequence (d :: ds) =>
    let inner := place.inner true column
    place.before inner ++ '-' :: writeNode inner .item d ++ writeItems inner ds
  | .mapping [] => lineBreak (place.gap ++ "\x7b\x7d".toList)
  | .mapping ((k, v) :: rest) =>
    let inner := place.inner false column
    place.before inner ++ writeKey inner k ++ writeNode inner .value v ++ writeEntries inner rest
  | .tagged tag content => place.gap ++ '!' :: tag.toList ++ writeNode column .value content

def writeItems (column : Nat) : List Document → List Char
  | [] => []
  | d :: ds => margin column ++ '-' :: writeNode column .item d ++ writeItems column ds

def writeEntries (column : Nat) : List (Document × Document) → List Char
  | [] => []
  | (k, v) :: rest =>
    margin column ++ writeKey column k ++ writeNode column .value v ++ writeEntries column rest

def writeKey (column : Nat) : Document → List Char
  | .null => "null:".toList
  | .bool b => (toString b).toList ++ [':']
  | .number n => n.text.toList ++ [':']
  | .string s =>
    if isSimpleKey (.string s) then stringChars (column + 2) true s ++ [':']
    else '?' :: lineBreak (' ' :: stringChars (column + 2) false s) ++ margin column ++ [':']
  | .sequence [] => "[]:".toList
  | .mapping [] => "\x7b\x7d:".toList
  | other => '?' :: writeNode column .item other ++ margin column ++ [':']

end

def write (d : Document) : String := String.ofList (writeNode 0 .root d)

end LayeredConfig.Yaml
