import LayeredConfig.Yaml.ScalarText
import LayeredConfig.Yaml.TagText

namespace LayeredConfig.Yaml

/-- A token that is a key if a colon follows it on its line, within 1024 characters. -/
structure PossibleKey where
  /-- Its place among the tokens. -/
  position : Nat
  /-- It stands where only a key can stand. -/
  required : Bool
  index : Nat
  line : Nat
  column : Nat

structure Tokenizer where
  cursor : Cursor
  tokens : Array Token
  /-- The column of the innermost block collection; minus one outside all. -/
  indent : Int
  /-- The columns of the collections around it. -/
  outer : List Int
  keyAllowed : Bool
  /-- One entry for each open flow collection, innermost first, and one for the block around. -/
  possible : List (Option PossibleKey)

namespace Tokenizer

def start (text : List Char) : Tokenizer := ⟨⟨text, 0, 0, 0⟩, #[], -1, [], true, [none]⟩

def inFlow (t : Tokenizer) : Bool := 1 < t.possible.length

def push (t : Tokenizer) (token : Token) : Tokenizer := { t with tokens := t.tokens.push token }

def take (t : Tokenizer) (token : Token) (keyAllowed : Bool) : Tokenizer :=
  { t.push token with cursor := t.cursor.skip, keyAllowed }

def toNext : Nat → Tokenizer → Tokenizer
  | 0, t => t
  | fuel + 1, t =>
    let c := if t.cursor.column = 0 ∧ t.cursor.startsWith '\ufeff' then t.cursor.skip else t.cursor
    let c := c.skipWhile fun x => x == ' ' || (x == '\t' && (t.inFlow || !t.keyAllowed))
    let c := c.skipComment
    if c.atBreak then
      toNext fuel { t with cursor := c.skipLine, keyAllowed := t.keyAllowed || !t.inFlow }
    else { t with cursor := c }

/-- Gives up the keys that stand too far back. None if one of them was required. -/
def dropStale (t : Tokenizer) : Option Tokenizer :=
  let isStale (k : PossibleKey) : Bool :=
    k.line < t.cursor.line || k.index + 1024 < t.cursor.index
  if t.possible.any fun k? => k?.any fun k => isStale k && k.required then none
  else some { t with possible := t.possible.map fun k? => k?.filter fun k => !isStale k }

def setKey (t : Tokenizer) (key? : Option PossibleKey) : Option Tokenizer :=
  match t.possible with
  | k? :: rest => if k?.any (·.required) then none else some { t with possible := key? :: rest }
  | [] => some t

def dropKey (t : Tokenizer) : Option Tokenizer := t.setKey none

def saveKey (t : Tokenizer) : Option Tokenizer :=
  if t.keyAllowed then
    let c := t.cursor
    t.setKey (some
      ⟨t.tokens.size, !t.inFlow && t.indent == c.column, c.index, c.line, c.column⟩)
  else some t

/-- Opens a block collection at a column right of the current one; its sign goes to `position`. -/
def openBlock (t : Tokenizer) (column position : Nat) (token : Token) : Tokenizer :=
  if !t.inFlow && t.indent < column then
    { t with
      indent := column
      outer := t.indent :: t.outer
      tokens := t.tokens.insertIdxIfInBounds position token }
  else t

def closeBlocks (column : Int) (t : Tokenizer) : List Int → Tokenizer
  | [] => t
  | next :: outer =>
    if column < t.indent then
      closeBlocks column { t.push .blockEnd with indent := next, outer } outer
    else t

def closeTo (t : Tokenizer) (column : Int) : Tokenizer :=
  if t.inFlow then t else closeBlocks column t t.outer

/-! ### One token -/

def takeDirective (t : Tokenizer) : Option Tokenizer := do
  let t ← (t.closeTo (-1)).dropKey
  let (token, c) ← directive t.cursor
  return { t.push token with cursor := c, keyAllowed := false }

def takeMarker (t : Tokenizer) (token : Token) : Option Tokenizer := do
  let t ← (t.closeTo (-1)).dropKey
  return { t.push token with cursor := t.cursor.skipMany 3, keyAllowed := false }

def openFlow (t : Tokenizer) (token : Token) : Option Tokenizer := do
  let t ← t.saveKey
  return { t.take token true with possible := none :: t.possible }

def closeFlow (t : Tokenizer) (token : Token) : Option Tokenizer := do
  let t ← t.dropKey
  return { t.take token false with possible := if t.inFlow then t.possible.drop 1 else t.possible }

def takeFlowEntry (t : Tokenizer) : Option Tokenizer := do
  return (← t.dropKey).take .flowEntry true

def openHere (t : Tokenizer) (token : Token) : Option Tokenizer :=
  if t.inFlow then some t
  else if t.keyAllowed then some (t.openBlock t.cursor.column t.tokens.size token)
  else none

def takeBlockEntry (t : Tokenizer) : Option Tokenizer := do
  return (← (← t.openHere .blockSequenceStart).dropKey).take .blockEntry true

def takeKey (t : Tokenizer) : Option Tokenizer := do
  return (← (← t.openHere .blockMappingStart).dropKey).take .key !t.inFlow

/-- A colon makes the last possible key one; without such it stands after an empty or a long key. -/
def takeValue (t : Tokenizer) : Option Tokenizer :=
  match t.possible with
  | some k :: rest =>
    let tokens := t.tokens.insertIdxIfInBounds k.position .key
    let t := { t with possible := none :: rest, tokens }
    some ((t.openBlock k.column k.position .blockMappingStart).take .value false)
  | _ => do
    return (← t.openHere .blockMappingStart).take .value !t.inFlow

def takeAnchor (t : Tokenizer) (token : String → Token) : Option Tokenizer := do
  let t ← t.saveKey
  let (name, c) ← anchorName t.cursor
  return { t.push (token name) with cursor := c, keyAllowed := false }

def takeTag (t : Tokenizer) : Option Tokenizer := do
  let t ← t.saveKey
  let (tag, c) ← tagToken t.inFlow t.cursor
  return { t.push (.tag tag) with cursor := c, keyAllowed := false }

def takeBlockScalar (t : Tokenizer) (literal : Bool) : Option Tokenizer := do
  let t ← t.dropKey
  let (text, c) ← blockScalar literal t.indent t.cursor
  return { t.push (.scalar (String.ofList text) false) with cursor := c, keyAllowed := true }

def takeQuoted (t : Tokenizer) (quote : Char) : Option Tokenizer := do
  let t ← t.saveKey
  let (text, c) ← quotedScalar quote t.cursor
  return { t.push (.scalar (String.ofList text) false) with cursor := c, keyAllowed := false }

def takePlain (t : Tokenizer) : Option Tokenizer := do
  let t ← t.saveKey
  let (text, broken, c) ← plainScalar t.inFlow (t.indent + 1).toNat t.cursor
  return { t.push (.scalar (String.ofList text) true) with cursor := c, keyAllowed := broken }

def isSign (c : Char) : Bool := "-?:,[]\x7b\x7d#&*!|>\x27\"%@".contains c || c == '\x60'

inductive Kind where
  | directive
  | documentStart
  | documentEnd
  | sequenceStart
  | sequenceEnd
  | mappingStart
  | mappingEnd
  | flowEntry
  | reference
  | anchor
  | tag
  | quoted (quote : Char)
  | blockEntry
  | key
  | value
  | block (literal : Bool)
  | plain

def kind? (t : Tokenizer) (x : Char) : Option Kind :=
  let c := t.cursor
  let gapAfter := isGap (c.peek 1)
  if c.column = 0 ∧ x = '%' then some .directive
  else if c.atMarker '-' then some .documentStart
  else if c.atMarker '.' then some .documentEnd
  else match x with
    | '[' => some .sequenceStart
    | '\x7b' => some .mappingStart
    | ']' => some .sequenceEnd
    | '\x7d' => some .mappingEnd
    | ',' => some .flowEntry
    | '*' => some .reference
    | '&' => some .anchor
    | '!' => some .tag
    | '\x27' => some (.quoted '\x27')
    | '\x22' => some (.quoted '\x22')
    | _ =>
      if x = '-' ∧ gapAfter then some .blockEntry
      else if x = '?' ∧ (t.inFlow || gapAfter) then some .key
      else if x = ':' ∧ (t.inFlow || gapAfter) then some .value
      else if x = '|' ∧ !t.inFlow then some (.block true)
      else if x = '>' ∧ !t.inFlow then some (.block false)
      else if isBlankChar x then none
      else if !isSign x || x = '-' || (!t.inFlow && (x = '?' || x = ':')) then some .plain
      else none

def takeKind (t : Tokenizer) : Kind → Option Tokenizer
  | .directive => t.takeDirective
  | .documentStart => t.takeMarker .documentStart
  | .documentEnd => t.takeMarker .documentEnd
  | .sequenceStart => t.openFlow .flowSequenceStart
  | .sequenceEnd => t.closeFlow .flowSequenceEnd
  | .mappingStart => t.openFlow .flowMappingStart
  | .mappingEnd => t.closeFlow .flowMappingEnd
  | .flowEntry => t.takeFlowEntry
  | .reference => t.takeAnchor .alias
  | .anchor => t.takeAnchor .anchor
  | .tag => t.takeTag
  | .quoted quote => t.takeQuoted quote
  | .blockEntry => t.takeBlockEntry
  | .key => t.takeKey
  | .value => t.takeValue
  | .block literal => t.takeBlockScalar literal
  | .plain => t.takePlain

def takeToken (t : Tokenizer) (x : Char) : Option Tokenizer := (t.kind? x).bind t.takeKind

def run : Nat → Tokenizer → Option (List Token)
  | 0, _ => none
  | fuel + 1, t => do
    let t ← (t.toNext (t.cursor.rest.length + 1)).dropStale
    match t.cursor.head with
    | none =>
      let t ← (t.closeTo (-1)).dropKey
      return (t.push .streamEnd).tokens.toList
    | some x => run fuel (← (t.closeTo t.cursor.column).takeToken x)

end Tokenizer

/-- The tokens of a text; a byte order mark in front of it is left out. -/
def Token.ofText? (text : List Char) : Option (List Token) :=
  let text := match text with
    | c :: rest => if c.toNat = 0xFEFF then rest else c :: rest
    | [] => []
  if text.all isAllowed then (Tokenizer.start text).run (text.length + 1) else none

end LayeredConfig.Yaml
