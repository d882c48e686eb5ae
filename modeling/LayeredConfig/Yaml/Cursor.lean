namespace LayeredConfig.Yaml

def isAllowed (c : Char) : Bool :=
  let n := c.toNat
  n == 0x09 || n == 0x0A || n == 0x0D || (0x20 ≤ n && n ≤ 0x7E) || n == 0x85 ||
    (0xA0 ≤ n && n ≤ 0xFFFD) || 0x10000 ≤ n

def isBreakChar (c : Char) : Bool :=
  c == '\n' || c == '\r' || c.toNat == 0x85 || c.toNat == 0x2028 || c.toNat == 0x2029

def isBlankChar (c : Char) : Bool := c == ' ' || c == '\t'

def isWordChar (c : Char) : Bool := c.isAlphanum || c == '_' || c == '-'

def isBreakOrEnd (c? : Option Char) : Bool := c?.all isBreakChar

def isGap (c? : Option Char) : Bool := c?.all fun c => isBlankChar c || isBreakChar c

structure Cursor where
  rest : List Char
  index : Nat
  line : Nat
  column : Nat

namespace Cursor

def peek (c : Cursor) (ahead : Nat) : Option Char := c.rest[ahead]?

def head (c : Cursor) : Option Char := c.rest.head?

def startsWith (c : Cursor) (x : Char) : Bool := c.head == some x

def atBlank (c : Cursor) : Bool := c.head.any isBlankChar

def atBreak (c : Cursor) : Bool := c.head.any isBreakChar

def skip (c : Cursor) : Cursor :=
  match c.rest with
  | [] => c
  | _ :: rest => { c with rest, index := c.index + 1, column := c.column + 1 }

def skipMany (c : Cursor) (count : Nat) : Cursor :=
  { c with
    rest := c.rest.drop count
    index := c.index + min count c.rest.length
    column := c.column + min count c.rest.length }

def skipLine (c : Cursor) : Cursor :=
  match c.rest with
  | '\r' :: '\n' :: rest => ⟨rest, c.index + 2, c.line + 1, 0⟩
  | x :: rest => if isBreakChar x then ⟨rest, c.index + 1, c.line + 1, 0⟩ else c
  | [] => c

/-- The break that a line break stands for: all but the two separators are line feeds. -/
def breakText (c : Cursor) : List Char :=
  match c.head with
  | some x => if !isBreakChar x then [] else if 0x2000 ≤ x.toNat then [x] else ['\n']
  | none => []

def takeWhile (p : Char → Bool) (c : Cursor) : List Char × Cursor :=
  let taken := c.rest.takeWhile p
  (taken, c.skipMany taken.length)

def skipWhile (p : Char → Bool) (c : Cursor) : Cursor := (c.takeWhile p).2

def skipComment (c : Cursor) : Cursor :=
  if c.startsWith '#' then c.skipWhile (!isBreakChar ·) else c

def endLine? (c : Cursor) : Option Cursor :=
  let c := (c.skipWhile isBlankChar).skipComment
  if isBreakOrEnd c.head then some c.skipLine else none

/-- At the start of a line with three equal signs and a gap, which bounds a document. -/
def atMarker (c : Cursor) (x : Char) : Bool :=
  c.column == 0 && c.rest.take 3 == [x, x, x] && isGap (c.peek 3)

def atDocumentBound (c : Cursor) : Bool := c.atMarker '-' || c.atMarker '.'

end Cursor

end LayeredConfig.Yaml
