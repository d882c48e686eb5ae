import LayeredConfig.Yaml.Tokens

namespace LayeredConfig.Yaml

inductive Node where
  | alias (number : Nat)
  | scalar (tag : Option String) (text : String) (plain : Bool)
  | sequence (tag : Option String) (items : List Node)
  | mapping (tag : Option String) (entries : List (Node × Node))
  deriving Inhabited

structure Anchored where
  number : Nat
  place : Nat
  node : Node

structure Builder where
  tokens : List Token
  /-- What the handles of tags stand for. -/
  handles : List (String × List UInt8)
  /-- The number of each anchor. A new anchor gets the count of the names before it, also where its
  own name is one of them. -/
  numbers : List (String × Nat)
  anchored : List Anchored
  /-- How many nodes have begun. -/
  begun : Nat

namespace Builder

def standardHandles : List (String × List UInt8) :=
  [("!", "!".toUTF8.toList), ("!!", "tag:yaml.org,2002:".toUTF8.toList)]

def start (tokens : List Token) : Builder := ⟨tokens, standardHandles, [], [], 0⟩

def head (b : Builder) : Token := b.tokens.headD .streamEnd

def skip (b : Builder) : Builder := { b with tokens := b.tokens.drop 1 }

def resolve? (b : Builder) (tag : TagText) : Option (List UInt8) :=
  if tag.handle.isEmpty then some tag.suffix
  else (b.handles.lookup tag.handle).map (· ++ tag.suffix)

def name (b : Builder) (anchor : String) : Nat × Builder :=
  let number := b.numbers.length
  let others := b.numbers.filter (·.1 != anchor)
  (number, { b with numbers := (anchor, number) :: others })

/-- The properties in front of a node: an anchor and a tag, each at most once, in either order. -/
def properties (b : Builder) : Option String × Option TagText × Builder :=
  match b.tokens with
  | .anchor a :: .tag t :: rest => (some a, some t, { b with tokens := rest })
  | .tag t :: .anchor a :: rest => (some a, some t, { b with tokens := rest })
  | .anchor a :: rest => (some a, none, { b with tokens := rest })
  | .tag t :: rest => (none, some t, { b with tokens := rest })
  | _ => (none, none, b)

end Builder

/-- The tag that some bytes are. One of the document's own that is no UTF-8 is ignored, and among
other tags it is one that nobody knows. -/
def tagOfBytes? (bytes : List UInt8) : Option String :=
  match Text.decode? ⟨bytes.toArray⟩ with
  | some tag => some tag
  | none => if bytes.head? = some '!'.toUInt8 then none else some (Text.decodeLossy ⟨bytes.toArray⟩)

/-- An empty place stands for an empty plain scalar. -/
def Node.empty : Node := .scalar none "" true

structure NodeContext where
  /-- Block collections are allowed. -/
  block : Bool
  /-- The entries of a sequence may stand at the column of the mapping around it. -/
  indentless : Bool

def NodeContext.entry : NodeContext := ⟨true, false⟩
def NodeContext.mappingPart : NodeContext := ⟨true, true⟩
def NodeContext.flow : NodeContext := ⟨false, false⟩

abbrev NodeParser (α : Type) := Builder → Option (α × Builder)

def nodeUnless (stops : Token → Bool) (parse : NodeParser Node) : NodeParser Node := fun b =>
  if stops b.head then some (.empty, b) else parse b

def finish (number? : Option Nat) (place : Nat) (node : Node) (b : Builder) : Node × Builder :=
  match number? with
  | some number => (node, { b with anchored := ⟨number, place, node⟩ :: b.anchored })
  | none => (node, b)

mutual

def parseNode : Nat → NodeContext → NodeParser Node
  | 0, _, _ => none
  | fuel + 1, context, b =>
    match b.tokens with
    | .alias a :: rest =>
      (b.numbers.lookup a).map fun number => (.alias number, { b with tokens := rest })
    | _ => do
      let (anchor?, tag?, b) := b.properties
      let tag? ← match tag? with
        | some t => (b.resolve? t).map some
        | none => some none
      let (number?, b) := match anchor? with
        | some a => let (n, b) := b.name a; (some n, b)
        | none => (none, b)
      let place := b.begun
      let b := { b with begun := place + 1 }
      let tag := tag?.bind tagOfBytes?
      let sequence (r : List Node × Builder) := finish number? place (.sequence tag r.1) r.2
      let mapping (r : List (Node × Node) × Builder) :=
        finish number? place (.mapping tag r.1) r.2
      match b.head with
      | .blockEntry =>
        if context.indentless then (parseIndentless fuel b).map sequence
        else if anchor?.isSome || tag?.isSome then
          some (finish number? place (.scalar tag "" true) b)
        else none
      | .scalar text plain => some (finish number? place (.scalar tag text plain) b.skip)
      | .flowSequenceStart => (parseFlowItems fuel true b.skip).map sequence
      | .flowMappingStart => (parseFlowEntries fuel true b.skip).map mapping
      | token =>
        if context.block && token == .blockSequenceStart then
          (parseBlockItems fuel b.skip).map sequence
        else if context.block && token == .blockMappingStart then
          (parseBlockEntries fuel b.skip).map mapping
        else if anchor?.isSome || tag?.isSome then
          some (finish number? place (.scalar tag "" true) b)
        else none

def parseBlockItems : Nat → NodeParser (List Node)
  | 0, _ => none
  | fuel + 1, b => match b.head with
    | .blockEntry => do
      let stops (t : Token) := t == .blockEntry || t == .blockEnd
      let (item, b) ← nodeUnless stops (parseNode fuel .entry) b.skip
      let (items, b) ← parseBlockItems fuel b
      return (item :: items, b)
    | .blockEnd => some ([], b.skip)
    | _ => none

def parseIndentless : Nat → NodeParser (List Node)
  | 0, _ => none
  | fuel + 1, b => match b.head with
    | .blockEntry => do
      let stops (t : Token) := t == .blockEntry || t == .key || t == .value || t == .blockEnd
      let (item, b) ← nodeUnless stops (parseNode fuel .entry) b.skip
      let (items, b) ← parseIndentless fuel b
      return (item :: items, b)
    | _ => some ([], b)

def parseBlockEntries : Nat → NodeParser (List (Node × Node))
  | 0, _ => none
  | fuel + 1, b =>
    let stops (t : Token) := t == .key || t == .value || t == .blockEnd
    match b.head with
    | .key => do
      let (key, b) ← nodeUnless stops (parseNode fuel .mappingPart) b.skip
      let (value, b) ← if b.head == .value then
          nodeUnless stops (parseNode fuel .mappingPart) b.skip
        else some (.empty, b)
      let (entries, b) ← parseBlockEntries fuel b
      return ((key, value) :: entries, b)
    | .blockEnd => some ([], b.skip)
    | _ => none

/-- The items of a flow sequence, up to its end. A pair in it is a mapping of one entry. -/
def parseFlowItems : Nat → Bool → NodeParser (List Node)
  | 0, _, _ => none
  | fuel + 1, first, b => do
    if b.head == .flowSequenceEnd then return ([], b.skip)
    let b ← if first then some b else if b.head == .flowEntry then some b.skip else none
    match b.head with
    | .flowSequenceEnd => return ([], b.skip)
    | .key =>
      let (pair, b) ← parsePair fuel b.skip
      let (items, b) ← parseFlowItems fuel false b
      return (.mapping none [pair] :: items, b)
    | _ =>
      let (item, b) ← parseNode fuel .flow b
      let (items, b) ← parseFlowItems fuel false b
      return (item :: items, b)

/-- A pair in a flow sequence. Where the key is empty, the token after its sign is passed over. -/
def parsePair : Nat → NodeParser (Node × Node)
  | 0, _ => none
  | fuel + 1, b => do
    let stops (t : Token) := t == .flowEntry || t == .flowSequenceEnd
    let (key, b) ← if b.head == .value || stops b.head then some (.empty, b.skip)
      else parseNode fuel .flow b
    let (value, b) ← if b.head == .value then nodeUnless stops (parseNode fuel .flow) b.skip
      else some (.empty, b)
    return ((key, value), b)

def parseFlowEntries : Nat → Bool → NodeParser (List (Node × Node))
  | 0, _, _ => none
  | fuel + 1, first, b => do
    if b.head == .flowMappingEnd then return ([], b.skip)
    let b ← if first then some b else if b.head == .flowEntry then some b.skip else none
    let stops (t : Token) := t == .flowEntry || t == .flowMappingEnd
    match b.head with
    | .flowMappingEnd => return ([], b.skip)
    | .key =>
      let (key, b) ← nodeUnless (fun t => t == .value || stops t) (parseNode fuel .flow) b.skip
      let (value, b) ← if b.head == .value then nodeUnless stops (parseNode fuel .flow) b.skip
        else some (.empty, b)
      let (entries, b) ← parseFlowEntries fuel false b
      return ((key, value) :: entries, b)
    | _ =>
      let (key, b) ← parseNode fuel .flow b
      let (entries, b) ← parseFlowEntries fuel false b
      return ((key, .empty) :: entries, b)

end

/-! ### Documents -/

/-- The directives in front of a document: at most one version, 1.1 or 1.2, and each handle once. -/
def directives (versioned : Bool) (own : List (String × List UInt8)) :
    List Token → Option (List (String × List UInt8) × List Token)
  | .versionDirective major minor :: rest =>
    if versioned || major != 1 || !(minor == 1 || minor == 2) then none
    else directives true own rest
  | .tagDirective handle start :: rest =>
    if (own.lookup handle).isSome then none
    else directives versioned (own ++ [(handle, start)]) rest
  | rest => some (own, rest)

def isDirective : Token → Bool
  | .versionDirective _ _ | .tagDirective _ _ => true
  | _ => false

def documentContent (b : Builder) : Option (Node × Builder) :=
  let stops (t : Token) :=
    isDirective t || t == .documentStart || t == .documentEnd || t == .streamEnd
  nodeUnless stops (parseNode (2 * b.tokens.length + 2) .entry) b

def firstDocument (tokens : List Token) : Option (Node × Builder) := do
  let (own, rest) ← directives false [] tokens
  if rest.length < tokens.length || rest.head? == some .documentStart then
    if rest.head? != some .documentStart then none
    let b := Builder.start (rest.drop 1)
    documentContent { b with handles := own ++ b.handles }
  else parseNode (2 * tokens.length + 2) .entry (Builder.start tokens)

structure Graph where
  root : Node
  anchored : List Anchored

def Graph.ofTokens? (tokens : List Token) : Option Graph :=
  if tokens = [.streamEnd] then some ⟨.empty, []⟩
  else do
    let (root, b) ← firstDocument tokens
    if b.tokens.dropWhile (· == .documentEnd) = [.streamEnd] then return ⟨root, b.anchored⟩
    else none

end LayeredConfig.Yaml
