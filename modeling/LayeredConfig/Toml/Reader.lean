import LayeredConfig.Toml.Table

namespace LayeredConfig.Toml

def nextPart (cs : List Char) : Option (List Char) := skipLines (cs.length + 1) cs

mutual

def value : Nat → Nat → Reader Document
  | 0, _, _ => none
  | fuel + 1, depth, cs => match cs with
    | [] => none
    | c :: rest =>
      if c == '\x22' || c == '\x27' then (string cs).map fun r => (.string r.1, r.2)
      else if c == '[' then
        if depth = 0 then none
        else (arrayItems fuel (depth - 1) rest).map fun r => (.sequence r.1, r.2)
      else if c == '\x7b' then
        if depth = 0 then none else do
          let (table, rest) ← inlineEntries fuel (depth - 1) true .new (skipBlanks rest)
          return (← table.document?, rest)
      else if c == 't' || c == 'f' then boolean cs
      else if c == 'i' || c == 'n' then specialFloat cs
      else if c == '+' || c == '-' || c.isDigit then numberOrDateTime cs
      else none

def arrayItems : Nat → Nat → Reader (List Document)
  | 0, _, _ => none
  | fuel + 1, depth, cs => do
    match ← nextPart cs with
    | ']' :: rest => return ([], rest)
    | cs =>
      let (item, rest) ← value fuel depth cs
      match ← nextPart rest with
      | ',' :: rest =>
        let (items, rest) ← arrayItems fuel depth rest
        return (item :: items, rest)
      | ']' :: rest => return ([item], rest)
      | _ => none

/-- The entries of an inline table up to its end, on one line and without a comma at the end. -/
def inlineEntries : Nat → Nat → Bool → Table → Reader Table
  | 0, _, _, _, _ => none
  | fuel + 1, depth, first, table, cs => match cs, first with
    | '\x7d' :: rest, true => some (table, rest)
    | cs, _ => do
      let (keys, rest) ← dottedKey cs
      let (path, key) ← splitLast keys
      let (_, rest) ← after '=' rest
      let (content, rest) ← value fuel depth (skipBlanks rest)
      let table ← table.addValue path key content
      match skipBlanks rest with
      | ',' :: rest => inlineEntries fuel depth false table rest
      | '\x7d' :: rest => return (table, rest)
      | _ => none

def boolean (cs : List Char) : Option (Document × List Char) :=
  match cs with
  | 't' :: 'r' :: 'u' :: 'e' :: rest => some (.bool true, rest)
  | 'f' :: 'a' :: 'l' :: 's' :: 'e' :: rest => some (.bool false, rest)
  | _ => none

end

/-- A header in brackets; two brackets are an element of an array of tables. -/
def header (d : Draft) (cs : List Char) : Option (Draft × List Char) :=
  match cs with
  | '[' :: '[' :: rest => do
    let (path, rest) ← dottedKey rest
    let (_, rest) ← after ']' rest
    let (_, rest) ← after ']' rest
    return (← d.openElement path, ← endLine? rest)
  | '[' :: rest => do
    let (path, rest) ← dottedKey rest
    let (_, rest) ← after ']' rest
    return (← d.openTable path, ← endLine? rest)
  | _ => none

def keyValue (d : Draft) (cs : List Char) : Option (Draft × List Char) := do
  let (keys, rest) ← dottedKey cs
  let (path, key) ← splitLast keys
  let (_, rest) ← after '=' rest
  let (content, rest) ← value (rest.length + 1) (maxDepth - 1) (skipBlanks rest)
  return (← d.addValue path key content, ← endLine? rest)

def lines : Nat → Draft → List Char → Option Draft
  | 0, _, _ => none
  | fuel + 1, d, cs => match skipBlanks cs with
    | [] => some d
    | '#' :: rest => (endLine? ('#' :: rest)).bind (lines fuel d)
    | '[' :: rest => do
      let (d, rest) ← header d ('[' :: rest)
      lines fuel d rest
    | cs => match lineBreak? cs with
      | some rest => lines fuel d rest
      | none => do
        let (d, rest) ← keyValue d cs
        lines fuel d rest

def read? (text : String) : Option Document := do
  let cs := match text.toList with
    | c :: rest => if c.toNat = 0xFEFF then rest else c :: rest
    | [] => []
  let draft ← lines (cs.length + 1) .start cs
  (← draft.close).document?

end LayeredConfig.Toml
