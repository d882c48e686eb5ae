import LayeredConfig.Schema.Shape

namespace LayeredConfig.Schema

/-- The entries of a record, field by field. -/
def encodeEntries : List (String × (Value → Document)) → List Value → List (Document × Document)
  | (key, encode) :: table, v :: vs => (.string key, encode v) :: encodeEntries table vs
  | _, _ => []

mutual

def Shape.encode : Shape → Value → Document
  | .leaf _, .scalar s => s.encode
  | .leaf _, _ => .null
  | .option item, .set v => item.encode v
  | .option _, _ => .null
  | .sequence item, v => .sequence (v.elements.map item.encode)
  | .record fields, v => .ofEntries (encodeEntries fields.encoders v.fields)

def Fields.encoders : Fields → List (String × (Value → Document))
  | .nil => []
  | .plain name shape _ rest => (normalizeKey name, shape.encode) :: rest.encoders
  | .inline _ inner rest => inner.encoders ++ rest.encoders

end

theorem Fields.encoders_eq (fields : Fields) :
    fields.encoders = fields.flatten.map fun f => (f.key, f.shape.encode) := by
  match fields with
  | .nil => rfl
  | .plain _ _ _ rest => simp [encoders, flatten, Field.key, Fields.encoders_eq rest]
  | .inline _ inner rest =>
    simp [encoders, flatten, Fields.encoders_eq inner, Fields.encoders_eq rest]

end LayeredConfig.Schema
