import LayeredConfig.Decimal.Numeral

namespace LayeredConfig.Toml

abbrev Reader (α : Type) := List Char → Option (α × List Char)

def isBlank (c : Char) : Bool := c == ' ' || c == '\t'

/-- Characters that may stand in comments and, apart from quotes and backslashes, in strings. -/
def isText (c : Char) : Bool := c == '\t' || (0x20 ≤ c.toNat && c.toNat ≠ 0x7F)

def isBareKeyChar (c : Char) : Bool := c.isAlphanum || c == '-' || c == '_'

def skipBlanks (cs : List Char) : List Char := cs.dropWhile isBlank

def lineBreak? : List Char → Option (List Char)
  | '\n' :: rest => some rest
  | '\r' :: '\n' :: rest => some rest
  | _ => none

def endLine? (cs : List Char) : Option (List Char) :=
  let cs := match skipBlanks cs with
    | '#' :: rest => rest.dropWhile isText
    | rest => rest
  if cs.isEmpty then some [] else lineBreak? cs

def skipLines : Nat → List Char → Option (List Char)
  | 0, _ => none
  | fuel + 1, cs => match skipBlanks cs with
    | '#' :: rest => (lineBreak? (rest.dropWhile isText)).bind (skipLines fuel)
    | rest => match lineBreak? rest with
      | some rest => skipLines fuel rest
      | none => some rest

/-! ### Strings -/

def codeChar? (digits : List Char) : Option Char :=
  (Decimal.natural? 16 digits).bind fun n => if n.isValidChar then some (Char.ofNat n) else none

def escape : Reader Char
  | 'b' :: rest => some ('\x08', rest)
  | 't' :: rest => some ('\t', rest)
  | 'n' :: rest => some ('\n', rest)
  | 'f' :: rest => some ('\x0c', rest)
  | 'r' :: rest => some ('\r', rest)
  | '\x22' :: rest => some ('\x22', rest)
  | '\\' :: rest => some ('\\', rest)
  | 'u' :: rest =>
    if rest.length < 4 then none else (codeChar? (rest.take 4)).map (·, rest.drop 4)
  | 'U' :: rest =>
    if rest.length < 8 then none else (codeChar? (rest.take 8)).map (·, rest.drop 8)
  | _ => none

def basicString : Nat → Reader (List Char)
  | 0, _ => none
  | fuel + 1, cs => match cs with
    | '\x22' :: rest => some ([], rest)
    | '\\' :: rest => do
      let (c, rest) ← escape rest
      let (text, rest) ← basicString fuel rest
      return (c :: text, rest)
    | c :: rest =>
      if isText c then (basicString fuel rest).map fun r => (c :: r.1, r.2) else none
    | [] => none

def literalString : Reader (List Char)
  | '\x27' :: rest => some ([], rest)
  | c :: rest =>
    if isText c then (literalString rest).map fun r => (c :: r.1, r.2) else none
  | [] => none

def joinedLine? (cs : List Char) : Option (List Char) :=
  (lineBreak? (skipBlanks cs)).map fun rest => rest.dropWhile fun c => isBlank c || c == '\n'

/-- A carriage return counts only as part of a line break. -/
def unifyBreaks : List Char → List Char
  | '\r' :: '\n' :: rest => '\n' :: unifyBreaks rest
  | c :: rest => c :: unifyBreaks rest
  | [] => []

/-- The rest of a string over several lines. Three quotes end it; up to two more belong to it. -/
def manyLines (quote : Char) (escapes : Bool) : Nat → Reader (List Char)
  | 0, _ => none
  | fuel + 1, cs =>
    let quotes := (cs.takeWhile (· == quote)).length
    if 3 ≤ quotes then
      let kept := min (quotes - 3) 2
      some (List.replicate kept quote, cs.drop (kept + 3))
    else match cs with
      | [] => none
      | c :: rest =>
        if escapes && c == '\\' then match joinedLine? rest with
          | some rest => manyLines quote escapes fuel rest
          | none => do
            let (c, rest) ← escape rest
            let (text, rest) ← manyLines quote escapes fuel rest
            return (c :: text, rest)
        else if isText c || c == '\n' then
          (manyLines quote escapes fuel rest).map fun r => (c :: r.1, r.2)
        else none

/-- A string over several lines after its opening quotes; a line break right after them is left
out. -/
def multilineString (quote : Char) (escapes : Bool) (cs : List Char) :
    Option (List Char × List Char) :=
  manyLines quote escapes (cs.length + 1) ((lineBreak? cs).getD cs)

def string : Reader String := fun cs =>
  let text? := match cs with
    | '\x22' :: '\x22' :: '\x22' :: rest => multilineString '\x22' true rest
    | '\x27' :: '\x27' :: '\x27' :: rest => multilineString '\x27' false rest
    | '\x22' :: rest => basicString (rest.length + 1) rest
    | '\x27' :: rest => literalString rest
    | _ => none
  text?.map fun r => (String.ofList r.1, r.2)

/-! ### Keys -/

def simpleKey (cs : List Char) : Option (String × List Char) :=
  match cs with
  | '\x22' :: rest =>
    (basicString (rest.length + 1) rest).map fun r => (String.ofList r.1, r.2)
  | '\x27' :: rest => (literalString rest).map fun r => (String.ofList r.1, r.2)
  | _ =>
    let key := cs.takeWhile isBareKeyChar
    if key.isEmpty then none else some (String.ofList key, cs.dropWhile isBareKeyChar)

/-- Nesting, of keys and of values, stays below this. -/
def maxDepth : Nat := 80

def dottedKeyFrom : Nat → Reader (List String)
  | 0, _ => none
  | fuel + 1, cs => do
    let (key, cs) ← simpleKey (skipBlanks cs)
    match skipBlanks cs with
    | '.' :: rest =>
      let (keys, rest) ← dottedKeyFrom fuel rest
      return (key :: keys, rest)
    | rest => return ([key], rest)

def dottedKey : Reader (List String) := fun cs => do
  let (keys, rest) ← dottedKeyFrom (cs.length + 1) cs
  if keys.length < maxDepth then return (keys, rest) else none

end LayeredConfig.Toml
