import LayeredConfig.Proofs.Schema.Location

namespace LayeredConfig

namespace Schema

/-- The leaf that the keys lead to through the fields of records, and its value. -/
def Shape.leafAt? : Shape → Value → List String → Option (Leaf × Value)
  | .leaf kind, v, [] => some (kind, v)
  | .record fields, v, key :: keys =>
    ((fields.flatten.zip v.fields).find? (·.1.key = key)).bind fun e =>
      e.1.shape.leafAt? e.2 keys
  | _, _, _ => none

def keyName? (key : Document) : Option String := (keyText key "").toOption.map normalizeKey

theorem keyName?_of_keyText {key : Document} {path text : String}
    (h : keyText key path = .ok text) : keyName? key = some (normalizeKey text) := by
  rw [keyName?, keyText_eq_ok_of_path "" h]
  rfl

end Schema

/-- The parts of a document that the keys lead to, in order. One key may stand there in several
spellings. -/
def Document.itemsAt : List String → Document → List Document
  | [], d => [d]
  | key :: keys, .mapping entries =>
    entries.flatMap fun e => if Schema.keyName? e.1 = some key then e.2.itemsAt keys else []
  | _ :: _, _ => []

namespace Schema

/-! ### Fields -/

namespace Fields.Found

variable {fields : Fields} {vs : List Value} {name : String}

theorem zip_put (r : fields.Found vs name) (w : Value) : fields.flatten.zip (r.put w) =
    r.before.zip r.valuesBefore ++ (r.field, w) :: r.after.zip r.valuesAfter := by
  rw [r.flatten_eq, put, List.zip_append r.length_eq.symm]
  rfl

theorem find?_put (r : fields.Found vs name) (w : Value) :
    (fields.flatten.zip (r.put w)).find? (·.1.key = name) = some (r.field, w) := by
  have hbefore : (r.before.zip r.valuesBefore).find? (·.1.key = name) = none := by
    rw [List.find?_eq_none]
    intro e he
    simpa using r.first e.1 (List.of_mem_zip he).1
  rw [r.zip_put, List.find?_append, hbefore]
  simp [r.key_eq]

theorem find?_put_of_ne (r : fields.Found vs name) {key : String} (h : key ≠ name) (w : Value) :
    (fields.flatten.zip (r.put w)).find? (·.1.key = key) =
      (fields.flatten.zip vs).find? (·.1.key = key) := by
  have hfield : r.field.key ≠ key := by
    rw [r.key_eq]
    exact h.symm
  have hold := r.zip_put r.value
  rw [r.put_value] at hold
  rw [r.zip_put, hold]
  simp [List.find?_append, hfield]

end Fields.Found

variable {kind : Leaf} {u : Value} {key : String} {keys : List String}

theorem leafAt?_record (fields : Fields) (vs : List Value) : Shape.leafAt? (.record fields)
    (.record vs) (key :: keys) = ((fields.flatten.zip vs).find? (·.1.key = key)).bind fun e =>
      e.1.shape.leafAt? e.2 keys := rfl

theorem Fields.Found.leafAt?_put {fields : Fields} {vs : List Value} (r : fields.Found vs key)
    (w : Value) : Shape.leafAt? (.record fields) (.record (r.put w)) (key :: keys) =
      r.field.shape.leafAt? w keys := by
  rw [leafAt?_record, r.find?_put]
  rfl

theorem Fields.Found.leafAt?_put_of_ne {fields : Fields} {vs : List Value} {name : String}
    (r : fields.Found vs name) (h : key ≠ name) (w : Value) :
    Shape.leafAt? (.record fields) (.record (r.put w)) (key :: keys) =
      Shape.leafAt? (.record fields) (.record vs) (key :: keys) := by
  rw [leafAt?_record, leafAt?_record, r.find?_put_of_ne h]

/-- Keys that lead to a leaf are keys of fields. -/
theorem forall_key_of_leafAt? {P : String → Prop} {shape : Shape} {v : Value}
    (hkeys : ∀ fields, (Shape.record fields).Within shape → ∀ f ∈ fields.flatten, P f.key)
    (h : shape.leafAt? v keys = some (kind, u)) : ∀ key ∈ keys, P key := by
  induction keys generalizing shape v with
  | nil => simp
  | cons key keys ih =>
    cases shape with
    | record fields =>
      obtain ⟨e, he, hrest⟩ := Option.bind_eq_some_iff.1 h
      have hf : e.1 ∈ fields.flatten := (List.of_mem_zip (List.mem_of_find?_eq_some he)).1
      have hkey : e.1.key = key := by simpa using List.find?_some he
      rw [List.forall_mem_cons]
      refine ⟨hkey ▸ hkeys fields .refl e.1 hf, ih ?_ hrest⟩
      exact fun inner hinner => hkeys inner (.record hf hinner)
    | _ => cases h

/-! ### What a leaf takes from a document -/

/-- No leaf takes a mapping. -/
theorem decodeLeaf_mapping_ne_done {kind : Leaf} {v w : Value}
    {entries : List (Document × Document)} {path : String} :
    decodeLeaf kind v (.mapping entries) path ≠ .done w := by
  cases kind <;> exact fun h => by cases h

def Leaf.take (kind : Leaf) (u : Value) (ds : List Document) : Decoded Value :=
  Outcome.each (fun v d => decodeLeaf kind v d "") u ds

theorem Leaf.take_append {ds es : List Document} {w : Value} :
    kind.take u (ds ++ es) = .done w ↔
      ∃ v, kind.take u ds = .done v ∧ kind.take v es = .done w := by
  rw [Leaf.take, Outcome.each_append, Outcome.andThen_eq_done_iff]
  rfl

/-- Decoding onto values of a type does to the leaf that the keys lead to what decoding the
addressed items onto the leaf does. -/
def Shape.ReachesLeaf (shape : Shape) (keys : List String) : Prop :=
  ∀ v v' d path kind u, shape.leafAt? v keys = some (kind, u) → shape.decode v d path = .done v' →
    ∃ u', shape.leafAt? v' keys = some (kind, u') ∧ kind.take u (d.itemsAt keys) = .done u'

section

variable {fields : Fields} (hfields : ∀ f ∈ fields.flatten, f.shape.ReachesLeaf keys)
include hfields

theorem recordStep_leafAt? {path : String} {vs ws : List Value} {e : Document × Document}
    (hleaf : Shape.leafAt? (.record fields) (.record vs) (key :: keys) = some (kind, u))
    (h : recordStep fields.decoders path vs e = .done ws) :
    ∃ u', Shape.leafAt? (.record fields) (.record ws) (key :: keys) = some (kind, u') ∧
      kind.take u (if keyName? e.1 = some key then e.2.itemsAt keys else []) = .done u' := by
  obtain ⟨text, hkey, r, w, hw, rfl⟩ := recordStep_eq_done_iff.1 h
  rw [keyName?_of_keyText hkey]
  -- The entry goes to the field on the way to the leaf, or to another one.
  by_cases hname : normalizeKey text = key
  · subst hname
    have hold : Shape.leafAt? (.record fields) (.record (r.put r.value))
        (normalizeKey text :: keys) = r.field.shape.leafAt? r.value keys := r.leafAt?_put r.value
    rw [r.put_value, hleaf] at hold
    rw [if_pos rfl, r.leafAt?_put]
    exact hfields r.field r.field_mem _ _ _ _ _ _ hold.symm hw
  · have hne : ¬some (normalizeKey text) = some key := fun hsome => hname (Option.some.inj hsome)
    rw [if_neg hne, r.leafAt?_put_of_ne fun hk => hname hk.symm]
    exact ⟨u, hleaf, rfl⟩

theorem each_recordStep_leafAt? {path : String} {vs ws : List Value}
    {entries : List (Document × Document)}
    (hleaf : Shape.leafAt? (.record fields) (.record vs) (key :: keys) = some (kind, u))
    (h : Outcome.each (recordStep fields.decoders path) vs entries = .done ws) :
    ∃ u', Shape.leafAt? (.record fields) (.record ws) (key :: keys) = some (kind, u') ∧
      kind.take u ((Document.mapping entries).itemsAt (key :: keys)) = .done u' := by
  induction entries generalizing vs u with
  | nil =>
    obtain rfl : vs = ws := by simpa using h
    exact ⟨u, hleaf, rfl⟩
  | cons e entries ih =>
    obtain ⟨vs', hfirst, hrest⟩ := Outcome.each_cons_eq_done_iff.1 h
    obtain ⟨w, hw, htake⟩ := recordStep_leafAt? hfields hleaf hfirst
    obtain ⟨u', hu, htakes⟩ := ih hw hrest
    refine ⟨u', hu, ?_⟩
    rw [Document.itemsAt, List.flatMap_cons, Leaf.take_append]
    exact ⟨w, htake, htakes⟩

end

theorem Shape.reachesLeaf (shape : Shape) (keys : List String) : shape.ReachesLeaf keys := by
  induction keys generalizing shape with
  | nil =>
    intro v v' d path kind u hleaf h
    cases shape with
    | leaf kind =>
      obtain ⟨rfl, rfl⟩ := Prod.mk.inj (Option.some.inj hleaf)
      have hignores := decodeLeaf_ignoresPath kind v d path "" v' h
      exact ⟨v', rfl, by rwa [Document.itemsAt, Leaf.take, Outcome.each_singleton]⟩
    | _ => cases hleaf
  | cons key keys ih =>
    intro v v' d path kind u hleaf h
    cases shape with
    | record fields =>
      cases v with
      | record vs =>
        cases d with
        | null =>
          obtain rfl : Value.record vs = v' := Outcome.done_inj.1 h
          exact ⟨u, hleaf, rfl⟩
        | mapping entries =>
          rw [Shape.decode, decodeRecord_mapping, Outcome.map_eq_done_iff] at h
          obtain ⟨ws, hws, rfl⟩ := h
          exact each_recordStep_leafAt? (fun f _ => ih f.shape) hleaf hws
        | _ => exact absurd h Outcome.failed_ne_done
      | _ => simp [Shape.leafAt?, Value.fields] at hleaf
    | _ => cases hleaf

/-! ### The last document decides -/

/-- The last of some documents that a leaf does not keep decides its value; without one the value
stays. -/
theorem Leaf.take_eq_done {ds : List Document} {w : Value} (h : kind.take u ds = .done w) :
    match (ds.filter fun d => !kind.keeps d).getLast? with
    | some d => ∀ v path, decodeLeaf kind v d path = .done w
    | none => w = u := by
  induction ds generalizing u with
  | nil => exact (Outcome.done_inj.1 h).symm
  | cons d ds ih =>
    obtain ⟨v, hv, hrest⟩ := Outcome.each_cons_eq_done_iff.1 h
    have hds := ih hrest
    by_cases hkeeps : kind.keeps d = true
    · obtain rfl : u = v := by simpa [decodeLeaf, hkeeps] using hv
      simpa [hkeeps] using hds
    · have hread : ∀ v' path, decodeLeaf kind v' d path = .done v := by
        intro v' path
        rw [decodeLeaf, if_neg hkeeps] at hv ⊢
        cases hr : kind.read d with
        | error reason => simp [hr] at hv
        | ok s => simpa [hr] using hv
      -- This document decides only if no later one does.
      rw [List.filter_cons_of_pos (by simpa using hkeeps), List.getLast?_cons]
      cases hlast : (ds.filter fun d => !kind.keeps d).getLast? with
      | some d' => simpa [hlast] using hds
      | none =>
        obtain rfl : w = v := by simpa [hlast] using hds
        exact hread

end Schema

end LayeredConfig
