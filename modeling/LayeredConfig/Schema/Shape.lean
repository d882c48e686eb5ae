import LayeredConfig.Schema.Leaf

/-!
Configuration types. The fields of an inline record count as fields of the record that holds it,
at its place; its own name is not a key.
-/

namespace LayeredConfig.Schema

mutual

inductive Shape where
  | leaf (kind : Leaf)
  | option (item : Shape)
  | sequence (item : Shape)
  | record (fields : Fields)

/-- The fields of a record; each plain field comes with the value it starts with. -/
inductive Fields where
  | nil
  | plain (name : String) (shape : Shape) (start : Value) (rest : Fields)
  | inline (name : String) (inner : Fields) (rest : Fields)

end

structure Field where
  name : String
  shape : Shape
  start : Value

def Field.key (f : Field) : String := normalizeKey f.name

/-- The fields with those of inline records in their place. -/
def Fields.flatten : Fields → List Field
  | nil => []
  | plain name shape start rest => ⟨name, shape, start⟩ :: rest.flatten
  | inline _ inner rest => inner.flatten ++ rest.flatten

def Shape.start : Shape → Value
  | leaf kind => .scalar kind.start
  | option _ => .unset
  | sequence _ => .items []
  | record fields => .record (fields.flatten.map Field.start)

end LayeredConfig.Schema
