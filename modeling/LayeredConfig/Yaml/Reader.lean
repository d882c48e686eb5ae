import LayeredConfig.Yaml.CoreSchema
import LayeredConfig.Yaml.Node

namespace LayeredConfig.Yaml

def maxDepth : Nat := 128

mutual

/-- How many events a node makes: the start and end of a collection count separately. -/
def Node.events : Node → Nat
  | .alias _ => 1
  | .scalar _ _ _ => 1
  | .sequence _ items => 2 + itemEvents items
  | .mapping _ entries => 2 + entryEvents entries

def itemEvents : List Node → Nat
  | [] => 0
  | n :: ns => n.events + itemEvents ns

def entryEvents : List (Node × Node) → Nat
  | [] => 0
  | (k, v) :: rest => k.events + v.events + entryEvents rest

end

/-- How many aliases may be replaced while a document is read. -/
def Graph.maxReplacements (g : Graph) : Nat := 100 * g.root.events

/-- The node with a number: of several the one that begins last. -/
def Graph.target? (g : Graph) (number : Nat) : Option Node :=
  let found := g.anchored.filter (·.number == number)
  (found.foldl (fun best a => match best with
    | some b => if b.place < a.place then some a else some b
    | none => some a) (none : Option Anchored)).map Anchored.node

def Graph.follow (g : Graph) (count : Nat) : Node → Option (Node × Nat)
  | .alias number =>
    if g.maxReplacements < count + 1 then none else (g.target? number).map (·, count + 1)
  | node => some (node, count)

def ownTag? (tag : Option String) : Option String :=
  match tag.map String.toList with
  | some ('!' :: rest) => some (String.ofList (match rest with
    | [] => ['!']
    | '!' :: c :: more => c :: more
    | other => other))
  | _ => none

def eachItem {α β : Type} (read : α → Nat → Option (β × Nat)) :
    List α → Nat → Option (List β × Nat)
  | [], count => some ([], count)
  | x :: xs, count => do
    let (y, count) ← read x count
    let (ys, count) ← eachItem read xs count
    return (y :: ys, count)

def eachEntry (readKey readValue : Node → Nat → Option (Document × Nat)) :
    List (Document × Document) → List (Node × Node) → Nat →
      Option (List (Document × Document) × Nat)
  | done, [], count => some (done, count)
  | done, (k, v) :: rest, count => do
    let (key, count) ← readKey k count
    if done.any fun e => e.1.same key then none
    let (value, count) ← readValue v count
    eachEntry readKey readValue (done ++ [(key, value)]) rest count

/-- The document of a node, with `depth` levels left. A node whose own tag is already taken, and
the keys of a mapping whose tag is, are read without regard to their tags. -/
def Graph.read (g : Graph) : Nat → Bool → Node → Nat → Option (Document × Nat)
  | depth, taken, node, count => do
    let (node, count) ← g.follow count node
    let wrap (tag : Option String) (r : Document × Nat) : Document × Nat :=
      match ownTag? tag with
      | some own => if taken then r else (.tagged own r.1, r.2)
      | none => r
    match node with
    | .alias _ => none
    | .scalar tag text plain =>
      let tag' := if taken || (ownTag? tag).isSome then none else tag
      (scalarDocument? tag' text plain).map fun d => wrap tag (d, count)
    | .sequence tag items => match depth with
      | 0 => none
      | depth + 1 =>
        (eachItem (fun n => g.read depth false n) items count).map fun r =>
          wrap tag (.sequence r.1, r.2)
    | .mapping tag entries => match depth with
      | 0 => none
      | depth + 1 =>
        let keysTaken := taken || (ownTag? tag).isSome
        (eachEntry (g.read depth keysTaken) (g.read depth false) [] entries count).map fun r =>
          wrap tag (.mapping r.1, r.2)

def read? (text : String) : Option Document := do
  let tokens ← Token.ofText? text.toList
  let graph ← Graph.ofTokens? tokens
  let (document, _) ← graph.read maxDepth false graph.root 0
  return document

end LayeredConfig.Yaml
