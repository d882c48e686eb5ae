import LayeredConfig.Decimal.Numeral
import LayeredConfig.Text.Utf8
import LayeredConfig.Yaml.Cursor
import LayeredConfig.Yaml.Token

namespace LayeredConfig.Yaml

def anchorName (c : Cursor) : Option (String × Cursor) :=
  let (name, c) := c.skip.takeWhile isWordChar
  if name.isEmpty || !(isGap c.head || c.head.any fun x => "?:,]\x7d%@".contains x || x == '\x60')
  then none else some (String.ofList name, c)

/-- Characters that may stand in a tag; between angle brackets also those of flow collections. -/
def isTagChar (verbatim : Bool) (c : Char) : Bool :=
  isWordChar c || ";/?:@&=+$.%!~*\x27()".contains c || (verbatim && ",[]".contains c)

def encodedLength? (byte : Nat) : Option Nat :=
  if byte < 0x80 then some 1
  else if byte / 32 = 6 then some 2
  else if byte / 16 = 14 then some 3
  else if byte / 8 = 30 then some 4
  else none

/-- The bytes of the characters of a tag. `due` counts the bytes that the percent-encoded character
before still needs. -/
def tagBytes (verbatim : Bool) : Nat → Nat → List Char → Option (List UInt8 × Nat)
  | 0, _, _ => none
  | fuel + 1, due, c :: rest =>
    if c = '%' then do
      let byte ← codeByte? (rest.take 2)
      let due ← if due = 0 then encodedLength? byte
        else if byte / 64 = 2 then some due else none
      let (bytes, n) ← tagBytes verbatim fuel (due - 1) (rest.drop 2)
      return (byte.toUInt8 :: bytes, n + 3)
    else if due ≠ 0 then none
    else if isTagChar verbatim c then do
      let (bytes, n) ← tagBytes verbatim fuel 0 rest
      return ((String.singleton c).toUTF8.toList ++ bytes, n + 1)
    else some ([], 0)
  | _, due, [] => if due = 0 then some ([], 0) else none
where
  codeByte? (digits : List Char) : Option Nat :=
    if digits.length = 2 then Decimal.natural? 16 digits else none

def tagChars (verbatim : Bool) (c : Cursor) : Option (List UInt8 × Cursor) := do
  let (bytes, n) ← tagBytes verbatim (c.rest.length + 1) 0 c.rest
  return (bytes, c.skipMany n)

/-- A handle: exclamation mark, word, and the mark again unless the word is part of the tag. -/
def tagHandle (c : Cursor) : Option (String × Cursor) :=
  if c.startsWith '!' then
    let (word, c) := c.skip.takeWhile isWordChar
    if c.startsWith '!' then some (String.ofList ('!' :: word ++ ['!']), c.skip)
    else some (String.ofList ('!' :: word), c)
  else none

def isNamedHandle (handle : String) : Bool :=
  1 < handle.length && handle.toList.getLast? == some '!'

def tagBody (c : Cursor) : Option (TagText × Cursor) :=
  if c.peek 1 = some '<' then do
    let (suffix, c) ← tagChars true c.skip.skip
    if suffix.isEmpty || !c.startsWith '>' then none
    return (⟨"", suffix⟩, c.skip)
  else do
    let (handle, c) ← tagHandle c
    let (more, c) ← tagChars false c
    if isNamedHandle handle then
      if more.isEmpty then none else return (⟨handle, more⟩, c)
    else
      let suffix := (String.ofList (handle.toList.drop 1)).toUTF8.toList ++ more
      return (if suffix.isEmpty then ⟨"", "!".toUTF8.toList⟩ else ⟨"!", suffix⟩, c)

def tagToken (inFlow : Bool) (c : Cursor) : Option (TagText × Cursor) := do
  let (tag, c) ← tagBody c
  if isGap c.head || (inFlow && c.startsWith ',') then return (tag, c) else none

def versionNumber (c : Cursor) : Option (Nat × Cursor) :=
  let (digits, c) := c.takeWhile Char.isDigit
  if 9 < digits.length then none else (Decimal.natural? 10 digits).map (·, c)

def directive (c : Cursor) : Option (Token × Cursor) := do
  let (name, c) := c.skip.takeWhile isWordChar
  if !isGap c.head then none
  let c := c.skipWhile isBlankChar
  match String.ofList name with
  | "YAML" =>
    let (major, c) ← versionNumber c
    if !c.startsWith '.' then none
    let (minor, c) ← versionNumber c.skip
    return (.versionDirective major minor, ← c.endLine?)
  | "TAG" =>
    let (handle, c) ← tagHandle c
    if !(isNamedHandle handle || handle = "!") || !c.atBlank then none
    let (start, c) ← tagChars true (c.skipWhile isBlankChar)
    if start.isEmpty || !isGap c.head then none
    return (.tagDirective handle start, ← c.endLine?)
  | _ => none

end LayeredConfig.Yaml
