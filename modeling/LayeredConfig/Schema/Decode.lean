import LayeredConfig.Outcome
import LayeredConfig.Schema.Shape

namespace LayeredConfig.Schema

/-- What decoding onto a value of type `α` leaves. -/
abbrev Decoded (α : Type) := Outcome DecodeError α

abbrev Decoder := Value → Document → String → Decoded Value

abbrev Builder := Document → String → Except DecodeError Value

def seeded (start : Value) (decode : Decoder) : Builder := fun d path =>
  (decode start d path).toExcept

def decodeLeaf (leaf : Leaf) : Decoder := fun v d path =>
  if leaf.keeps d then .done v
  else match leaf.read d with
    | .ok s => .done (.scalar s)
    | .error reason => .failed v (.coercion path reason)

def buildLeaf (leaf : Leaf) : Builder := fun d path =>
  if leaf.isParsed then
    match leaf.read d with
    | .ok s => .ok (.scalar s)
    | .error reason => .error (.coercion path reason)
  else seeded (.scalar leaf.start) (decodeLeaf leaf) d path

/-- Null unsets; anything else is merged onto the content, or builds one. -/
def decodeOption (decode : Decoder) (build : Builder) : Decoder := fun v d path =>
  if d.isNull then .done .unset
  else match v with
    | .set content => (decode content d path).map .set
    | v => match build d path with
      | .ok content => .done (.set content)
      | .error e => .failed v e

def buildOption (build : Builder) : Builder := fun d path =>
  if d.isNull then .ok .unset else (build d path).map .set

def keyText (key : Document) (path : String) : Except DecodeError String :=
  match key with
  | .string s => .ok s
  | .number n => .ok n.text
  | .bool b => .ok (toString b)
  | other => .error (.coercion path (.unsupportedKey other))

/-! ### Sequences -/

/-- How far past its end an index may reach into a sequence. -/
def maxGrowth : Nat := 1024

/-- The sequence with start values up to the index, if it may grow so far. -/
def grow? (start : Value) (vs : List Value) (index : Nat) : Option (List Value) :=
  if index < vs.length then some vs
  else if index - vs.length ≤ maxGrowth ∧ index + 1 < 2 ^ 64 then
    some (vs ++ List.replicate (index + 1 - vs.length) start)
  else none

def decodeElement (start : Value) (decode : Decoder) (vs : List Value) (index : Nat)
    (d : Document) (path : String) : Decoded (List Value) :=
  match grow? start vs index with
  | none => .failed vs (.coercion path .indexOutOfRange)
  | some grown => (decode (grown.getD index start) d path).map (grown.set index)

def sequenceIndex (key path : String) : Except DecodeError Nat :=
  let cs := Text.trimChars key.toList
  match Decimal.unsigned? 10 cs with
  | some i =>
    if i < 2 ^ 64 then .ok i
    else if cs.all Char.isDigit then .error (.coercion path .indexOutOfRange)
    else .error (.unknownKey path)
  | none => .error (.unknownKey path)

def commaParts (s : String) : List String :=
  ((Text.splitAt ',' s).map Text.trim).filter fun part => !part.isEmpty

def decodeParts (start : Value) (decode : Decoder) (path : String) :
    Nat → List String → Except DecodeError (List Value)
  | _, [] => .ok []
  | index, part :: parts => do
    let v ← seeded start decode (.string part) (joinPath path (toString index))
    return v :: (← decodeParts start decode path (index + 1) parts)

/-- A sequence merges by position and a mapping by index; a string holds the elements between its
commas, and any other scalar is the only element. -/
def decodeSequence (start : Value) (decode : Decoder) : Decoder := fun v d path =>
  let vs := v.elements
  match d with
  | .null => .done v
  | .sequence ds =>
    (Outcome.each (fun vs e =>
      decodeElement start decode vs e.2 e.1 (joinPath path (toString e.2))) vs ds.zipIdx).map .items
  | .mapping entries =>
    (Outcome.each (fun vs e =>
      match keyText e.1 path with
      | .error error => .failed vs error
      | .ok key => match sequenceIndex key (joinPath path key) with
        | .error error => .failed vs error
        | .ok index => decodeElement start decode vs index e.2 (joinPath path key))
      vs entries).map .items
  | .string s => match decodeParts start decode path 0 (commaParts s) with
    | .ok vs => .done (.items vs)
    | .error e => .failed v e
  | other => match seeded start decode other (joinPath path "0") with
    | .ok element => .done (.items [element])
    | .error e => .failed v e

/-! ### Records -/

def decodeField (name : String) (d : Document) (path : String) :
    List (String × Decoder) → List Value → Option (Decoded (List Value))
  | (key, decode) :: table, v :: vs =>
    if key = name then some ((decode v d path).map (· :: vs))
    else (decodeField name d path table vs).map (Outcome.map (v :: ·))
  | _, _ => none

/-- A mapping's entries are decoded in their order, each onto the field that its key names. -/
def decodeRecord (table : List (String × Decoder)) : Decoder := fun v d path =>
  match d with
  | .null => .done v
  | .mapping entries =>
    (Outcome.each (fun vs e =>
      match keyText e.1 path with
      | .error error => .failed vs error
      | .ok key =>
        let here := joinPath path key
        (decodeField (normalizeKey key) e.2 here table vs).getD (.failed vs (.unknownKey here)))
      v.fields entries).map .record
  | other => .failed v (.coercion path (.expectedMapping other))

mutual

def Shape.decode : Shape → Decoder
  | .leaf kind => decodeLeaf kind
  | .option item => decodeOption item.decode item.build
  | .sequence item => decodeSequence item.start item.decode
  | .record fields => decodeRecord fields.decoders

def Shape.build : Shape → Builder
  | .leaf kind => buildLeaf kind
  | .option item => buildOption item.build
  | .sequence item => seeded (.items []) (decodeSequence item.start item.decode)
  | .record fields =>
    seeded (.record (fields.flatten.map Field.start)) (decodeRecord fields.decoders)

def Fields.decoders : Fields → List (String × Decoder)
  | .nil => []
  | .plain name shape _ rest => (normalizeKey name, shape.decode) :: rest.decoders
  | .inline _ inner rest => inner.decoders ++ rest.decoders

end

theorem Shape.build_sequence (item : Shape) :
    (Shape.sequence item).build = seeded (Shape.sequence item).start (Shape.sequence item).decode :=
  rfl

theorem Shape.build_record (fields : Fields) :
    (Shape.record fields).build = seeded (Shape.record fields).start (Shape.record fields).decode :=
  rfl

theorem Fields.decoders_eq (fields : Fields) :
    fields.decoders = fields.flatten.map fun f => (f.key, f.shape.decode) := by
  match fields with
  | .nil => rfl
  | .plain _ _ _ rest => simp [decoders, flatten, Field.key, Fields.decoders_eq rest]
  | .inline _ inner rest =>
    simp [decoders, flatten, Fields.decoders_eq inner, Fields.decoders_eq rest]

end LayeredConfig.Schema
