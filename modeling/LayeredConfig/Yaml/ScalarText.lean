import LayeredConfig.Decimal.Numeral
import LayeredConfig.Yaml.Cursor

namespace LayeredConfig.Yaml

/-- Blanks and breaks between two words of a scalar. Once a break is met, blanks are indentation. -/
structure Spacing where
  blanks : List Char
  /-- The first break, empty if it was escaped. -/
  first : List Char
  more : List Char
  broken : Bool

namespace Spacing

def none : Spacing := ⟨[], [], [], false⟩

def escaped : Spacing := ⟨[], [], [], true⟩

def fold (s : Spacing) : List Char :=
  if !s.broken then s.blanks
  else if s.first = ['\n'] then (if s.more.isEmpty then [' '] else s.more)
  else s.first ++ s.more

end Spacing

/-- Blanks and breaks in front. `tabLimit` is the column below which a tab may not indent. -/
def spacing (tabLimit : Nat) : Nat → Spacing → Cursor → Option (Spacing × Cursor)
  | 0, _, _ => none
  | fuel + 1, s, c =>
    if c.atBlank then
      if s.broken then
        if c.column < tabLimit ∧ c.startsWith '\t' then none else spacing tabLimit fuel s c.skip
      else spacing tabLimit fuel { s with blanks := s.blanks ++ c.head.toList } c.skip
    else if c.atBreak then
      let s := if s.broken then { s with more := s.more ++ c.breakText }
        else ⟨[], c.breakText, [], true⟩
      spacing tabLimit fuel s c.skipLine
    else some (s, c)

/-! ### Plain scalars -/

def isFlowSign (c : Char) : Bool := ",[]\x7b\x7d".contains c

/-- The characters of one word of a plain scalar. None if a colon in a flow collection runs into
one of its signs. -/
def plainWord (inFlow : Bool) : List Char → Option (List Char)
  | [] => some []
  | c :: rest =>
    if isBlankChar c || isBreakChar c then some []
    else if inFlow && c == ':' && rest.head?.any (fun x => x == '?' || isFlowSign x) then none
    else if (c == ':' && isGap rest.head?) || (inFlow && isFlowSign c) then some []
    else (plainWord inFlow rest).map (c :: ·)

/-- The words of a plain scalar. `pending` is the spacing before the next word. The result says
whether the scalar was followed by a line break. -/
def plainWords (inFlow : Bool) (indent : Nat) :
    Nat → Spacing → List Char → Cursor → Option (List Char × Bool × Cursor)
  | 0, _, _, _ => none
  | fuel + 1, pending, text, c => do
    if c.atDocumentBound || c.startsWith '#' then return (text, pending.broken, c)
    let word ← plainWord inFlow c.rest
    let text := if word.isEmpty then text else text ++ pending.fold ++ word
    let pending := if word.isEmpty then pending else .none
    let c := c.skipMany word.length
    if !(c.atBlank || c.atBreak) then return (text, pending.broken, c)
    let (pending, c) ← spacing indent (c.rest.length + 1) pending c
    if !inFlow ∧ c.column < indent then return (text, pending.broken, c)
    plainWords inFlow indent fuel pending text c

def plainScalar (inFlow : Bool) (indent : Nat) (c : Cursor) :
    Option (List Char × Bool × Cursor) :=
  plainWords inFlow indent (c.rest.length + 1) .none [] c

/-! ### Quoted scalars -/

def escapedChar? : Char → Option Char
  | '0' => some '\x00'
  | 'a' => some '\x07'
  | 'b' => some '\x08'
  | 't' | '\t' => some '\t'
  | 'n' => some '\n'
  | 'v' => some '\x0b'
  | 'f' => some '\x0c'
  | 'r' => some '\r'
  | 'e' => some '\x1b'
  | ' ' => some ' '
  | '\x22' => some '\x22'
  | '/' => some '/'
  | '\\' => some '\\'
  | 'N' => some '\x85'
  | '_' => some '\xa0'
  | 'L' => some '\u2028'
  | 'P' => some '\u2029'
  | _ => none

def codeLength? : Char → Option Nat
  | 'x' => some 2
  | 'u' => some 4
  | 'U' => some 8
  | _ => none

def charOf? (n : Nat) : Option Char := if n.isValidChar then some (Char.ofNat n) else none

def codeChar? (length : Nat) (digits : List Char) : Option Char :=
  if digits.length = length then (Decimal.natural? 16 digits).bind charOf? else none

inductive WordEnd where
  | spacing
  | escapedBreak
  deriving DecidableEq

def singleWord : List Char → List Char × Nat
  | '\x27' :: '\x27' :: rest => let (word, n) := singleWord rest; ('\x27' :: word, n + 2)
  | c :: rest =>
    if c = '\x27' || isBlankChar c || isBreakChar c then ([], 0)
    else let (word, n) := singleWord rest; (c :: word, n + 1)
  | [] => ([], 0)

def doubleWord : Nat → List Char → Option (List Char × Nat × WordEnd)
  | 0, _ => none
  | _, [] => some ([], 0, .spacing)
  | fuel + 1, c :: rest =>
    if c = '\x22' || isBlankChar c || isBreakChar c then some ([], 0, .spacing)
    else if c ≠ '\\' then do
      let (word, n, e) ← doubleWord fuel rest
      return (c :: word, n + 1, e)
    else match rest with
      | [] => none
      | x :: rest =>
        if isBreakChar x then some ([], 1, .escapedBreak)
        else match codeLength? x with
          | some length => do
            let code ← codeChar? length (rest.take length)
            let (word, n, e) ← doubleWord fuel (rest.drop length)
            return (code :: word, n + 2 + length, e)
          | none => do
            let code ← escapedChar? x
            let (word, n, e) ← doubleWord fuel rest
            return (code :: word, n + 2, e)

def quotedWords (quote : Char) : Nat → List Char → Cursor → Option (List Char × Cursor)
  | 0, _, _ => none
  | fuel + 1, text, c => do
    if c.atDocumentBound || c.rest.isEmpty then none
    let (word, read, ending) ←
      if quote = '\x27' then some ((singleWord c.rest).1, (singleWord c.rest).2, WordEnd.spacing)
      else doubleWord (c.rest.length + 1) c.rest
    let text := text ++ word
    let c := c.skipMany read
    if c.startsWith quote ∧ ending = .spacing then return (text, c.skip)
    let start := if ending = .escapedBreak then Spacing.escaped else Spacing.none
    let c := if ending = .escapedBreak then c.skipLine else c
    if c.startsWith quote then return (text ++ start.fold, c.skip)
    let (gap, c) ← spacing 0 (c.rest.length + 1) start c
    quotedWords quote fuel (text ++ gap.fold) c

def quotedScalar (quote : Char) (c : Cursor) : Option (List Char × Cursor) :=
  quotedWords quote (c.rest.length + 1) [] c.skip

/-! ### Block scalars -/

inductive Chomping where
  | strip
  | clip
  | keep
  deriving DecidableEq

def chomping? : Option Char → Option Chomping
  | some '+' => some .keep
  | some '-' => some .strip
  | _ => none

/-- An indentation indicator: a digit from one to nine. None if it is zero. -/
def increment (c : Cursor) : Option (Nat × Cursor) :=
  match c.head with
  | some x =>
    if x = '0' then none
    else if x.isDigit then some (x.toNat - 48, c.skip)
    else some (0, c)
  | none => some (0, c)

def blockHeader (c : Cursor) : Option (Chomping × Nat × Cursor) :=
  match chomping? c.head with
  | some chomping => do
    let (n, c) ← increment c.skip
    return (chomping, n, c)
  | none => do
    let (n, c) ← increment c
    match (if n = 0 then none else chomping? c.head) with
    | some chomping => return (chomping, n, c.skip)
    | none => return (.clip, n, c)

/-- Empty lines and indentation. `indent` is zero as long as it is to be found out; the result has
the breaks, the deepest column reached and the place. -/
def blockBreaks (indent : Nat) :
    Nat → List Char → Nat → Cursor → Option (List Char × Nat × Cursor)
  | 0, _, _, _ => none
  | fuel + 1, breaks, deepest, c =>
    let isIndent (n : Nat) : Bool := indent == 0 || n < indent
    let spaces := (c.rest.takeWhile (· == ' ')).length
    let c := c.skipMany (if indent = 0 then spaces else min spaces (indent - c.column))
    let deepest := max deepest c.column
    if isIndent c.column && c.startsWith '\t' then none
    else if c.atBreak then blockBreaks indent fuel (breaks ++ c.breakText) deepest c.skipLine
    else some (breaks, deepest, c)

/-- The lines of a block scalar. `leading` is the break before the line, `trailing` those of the
empty lines after it, and `afterBlank` says that the line before began with a blank. -/
def blockLines (literal : Bool) (indent : Nat) :
    Nat → List Char → List Char → List Char → Bool → Cursor →
      Option (List Char × List Char × List Char × Cursor)
  | 0, _, _, _, _, _ => none
  | fuel + 1, text, leading, trailing, afterBlank, c =>
    if c.column ≠ indent ∨ c.rest.isEmpty then some (text, leading, trailing, c)
    else do
      let blank := c.atBlank
      let joint :=
        if !literal && leading = ['\n'] && !afterBlank && !blank then
          (if trailing.isEmpty then [' '] else [])
        else leading
      let (line, c) := c.takeWhile (!isBreakChar ·)
      let broken := c.breakText
      let c := c.skipLine
      let (breaks, _, c) ← blockBreaks indent (c.rest.length + 1) [] 0 c
      blockLines literal indent fuel (text ++ joint ++ trailing ++ line) broken breaks blank c

def blockScalar (literal : Bool) (parent : Int) (c : Cursor) : Option (List Char × Cursor) := do
  let (chomping, n, c) ← blockHeader c.skip
  let c ← c.endLine?
  let given := if n = 0 then 0 else (max parent 0).toNat + n
  let (trailing, deepest, c) ← blockBreaks given (c.rest.length + 1) [] 0 c
  let indent := if given = 0 then max deepest (max (parent + 1).toNat 1) else given
  let (text, leading, trailing, c) ←
    blockLines literal indent (c.rest.length + 1) [] [] trailing false c
  return (match chomping with
    | .strip => text
    | .clip => text ++ leading
    | .keep => text ++ leading ++ trailing, c)

end LayeredConfig.Yaml
