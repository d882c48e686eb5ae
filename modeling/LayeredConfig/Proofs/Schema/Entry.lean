import LayeredConfig.Proofs.Schema.Write

namespace LayeredConfig

/-- Such a scalar is the only element of the sequence that it is decoded onto. -/
def Document.standsAlone : Document → Bool
  | bool _ | number _ | tagged _ _ => true
  | _ => false

namespace Schema

/-! ### Keys -/

def keyText? (key : Document) : Option String := (keyText key "").toOption

def Fields.place? (fields : Fields) (key : Document) : Option ℕ :=
  (keyText? key).bind fields.select?

def elementIndex? (key : Document) : Option ℕ := (keyText? key).bind index?

def entryPath (path : String) (key : Document) : String := joinPath path ((keyText? key).getD "")

theorem keyText_eq_ok_iff {key : Document} {path text : String} :
    keyText key path = .ok text ↔ keyText? key = some text := by
  cases key <;> simp [keyText?, keyText, Except.toOption]

/-- A key without a text is refused at the mapping itself. -/
theorem keyText_eq_error_iff {key : Document} {path : String} {e : DecodeError} :
    keyText key path = .error e ↔
      keyText? key = none ∧ e = .coercion path (.unsupportedKey key) := by
  cases key <;> simp [keyText?, keyText, Except.toOption, eq_comm]

theorem entryPath_of_keyText {key : Document} {path text : String}
    (h : keyText key path = .ok text) : entryPath path key = joinPath path text := by
  rw [entryPath, keyText_eq_ok_iff.1 h, Option.getD_some]

theorem Fields.place?_eq {fields : Fields} {key : Document} {path text : String}
    (h : keyText key path = .ok text) : fields.place? key = fields.select? text := by
  rw [place?, keyText_eq_ok_iff.1 h, Option.bind_some]

theorem elementIndex?_eq {key : Document} {path text : String} (h : keyText key path = .ok text) :
    elementIndex? key = index? text := by
  rw [elementIndex?, keyText_eq_ok_iff.1 h, Option.bind_some]

theorem exists_keyText {key : Document} {α : Type} {read : String → Option α} {a : α}
    (h : (keyText? key).bind read = some a) (path : String) :
    ∃ text, keyText key path = .ok text := by
  obtain ⟨text, htext, -⟩ := Option.bind_eq_some_iff.1 h
  exact ⟨text, keyText_eq_ok_iff.2 htext⟩

/-! ### Steps onto a record -/

section Records

variable {fields : Fields} {path : String} {vs : List Value} {e : Document × Document} {i : ℕ}
  {f : Field} {v : Value}

/-- An entry is decoded onto the field that its key names first. -/
theorem recordStep_of_place? (hi : fields.place? e.1 = some i) (hf : fields.flatten[i]? = some f)
    (hv : vs[i]? = some v) : recordStep fields.decoders path vs e =
      (f.shape.decode v e.2 (entryPath path e.1)).map (vs.set i) := by
  obtain ⟨text, hkey⟩ := exists_keyText hi path
  rw [Fields.place?_eq hkey] at hi
  obtain ⟨r, rfl, rfl, rfl⟩ := Fields.exists_found_of_select? hi hf hv
  rw [recordStep_found hkey r, entryPath_of_keyText hkey, funext r.put_eq_set]

theorem recordStep_of_text {text : String} (hkey : keyText? e.1 = some text)
    (hi : fields.select? text = some i) (hf : fields.flatten[i]? = some f) (hv : vs[i]? = some v) :
    recordStep fields.decoders path vs e =
      (f.shape.decode v e.2 (joinPath path text)).map (vs.set i) := by
  have hplace : fields.place? e.1 = some i := by rw [Fields.place?, hkey, Option.bind_some, hi]
  rw [recordStep_of_place? hplace hf hv, entryPath, hkey, Option.getD_some]

theorem recordStep_of_no_text {table : List (String × Decoder)} (h : keyText? e.1 = none) :
    recordStep table path vs e = .failed vs (.coercion path (.unsupportedKey e.1)) := by
  simp [recordStep, keyText_eq_error_iff.2 ⟨h, rfl⟩]

theorem recordStep_of_no_field {text : String} (hkey : keyText? e.1 = some text)
    (h : fields.select? text = none) :
    recordStep fields.decoders path vs e = .failed vs (.unknownKey (joinPath path text)) := by
  have hfield :
      decodeField (normalizeKey text) e.2 (joinPath path text) fields.decoders vs = none := by
    rw [Option.eq_none_iff_forall_ne_some]
    intro o ho
    obtain ⟨r, -⟩ := Fields.exists_found ho
    cases h.symm.trans r.select?_eq
  simp [recordStep, keyText_eq_ok_iff.2 hkey, hfield]

/-- An entry whose key names no field fails, whatever the values are. -/
theorem recordStep_of_no_place (h : fields.place? e.1 = none) (path : String) :
    ∃ error, ∀ vs, recordStep fields.decoders path vs e = .failed vs error := by
  cases hkey : keyText? e.1 with
  | none => exact ⟨_, fun _ => recordStep_of_no_text hkey⟩
  | some text =>
    rw [Fields.place?, hkey, Option.bind_some] at h
    exact ⟨_, fun _ => recordStep_of_no_field hkey h⟩

/-- A step onto a record reaches the field that the key names first, or nothing. -/
theorem recordStep_place_cases (fields : Fields) (path : String) (vs : List Value)
    (e : Document × Document) :
    (∃ error, recordStep fields.decoders path vs e = .failed vs error) ∨
      ∃ i f v, fields.place? e.1 = some i ∧ fields.flatten[i]? = some f ∧ vs[i]? = some v ∧
        recordStep fields.decoders path vs e =
          (f.shape.decode v e.2 (entryPath path e.1)).map (vs.set i) := by
  refine (recordStep_cases fields path vs e).imp_right ?_
  rintro ⟨text, hkey, r, -⟩
  have hi : fields.place? e.1 = some r.valuesBefore.length := by
    rw [Fields.place?_eq hkey, r.select?_eq]
  exact ⟨_, _, _, hi, r.getElem?_flatten, r.getElem?_values,
    recordStep_of_place? hi r.getElem?_flatten r.getElem?_values⟩

theorem recordStep_eq_done_iff_set {ws : List Value} :
    recordStep fields.decoders path vs e = .done ws ↔
      ∃ i f v w, fields.place? e.1 = some i ∧ fields.flatten[i]? = some f ∧ vs[i]? = some v ∧
        f.shape.decode v e.2 (entryPath path e.1) = .done w ∧ vs.set i w = ws := by
  constructor
  · intro h
    rcases recordStep_place_cases fields path vs e with
      ⟨error, hfails⟩ | ⟨i, f, v, hi, hf, hv, hdecode⟩
    · rw [hfails] at h
      exact absurd h Outcome.failed_ne_done
    · rw [hdecode, Outcome.map_eq_done_iff] at h
      obtain ⟨w, hw, hset⟩ := h
      exact ⟨i, f, v, w, hi, hf, hv, hw, hset⟩
  · rintro ⟨i, f, v, w, hi, hf, hv, hw, rfl⟩
    rw [recordStep_of_place? hi hf hv, hw, Outcome.map_done]

theorem Fields.exists_of_place? (h : fields.place? e.1 = some i) :
    ∃ f, fields.flatten[i]? = some f := by
  obtain ⟨text, -, htext⟩ := Option.bind_eq_some_iff.1 h
  exact Fields.exists_of_select? htext

end Records

/-! ### Steps onto a sequence -/

def Reachable (count index : ℕ) : Prop :=
  index < count ∨ index - count ≤ maxGrowth ∧ index + 1 < 2 ^ 64

section Sequences

variable {start : Value} {decode : Decoder} {vs : List Value} {index : ℕ} {d : Document}
  {path : String} {e : Document × Document}

/-- What is decoded onto an element that can be reached is put there. -/
theorem decodeElement_of_reachable (h : Reachable vs.length index) (d : Document)
    (path : String) : decodeElement start decode vs index d path =
      (decode (vs.getD index start) d path).map (putElement start vs index) := by
  have hgrow : grow? start vs index =
      some (vs ++ List.replicate (index + 1 - vs.length) start) := grow?_eq_some_iff.2 ⟨h, rfl⟩
  rw [decodeElement_of_grow? hgrow, getD_grown]
  rfl

theorem decodeElement_of_not_reachable (h : ¬Reachable vs.length index) :
    decodeElement start decode vs index d path = .failed vs (.coercion path .indexOutOfRange) := by
  have hgrow : grow? start vs index = none := by
    rw [Option.eq_none_iff_forall_ne_some]
    exact fun ws hws => h (grow?_eq_some_iff.1 hws).1
  rw [decodeElement, hgrow]

theorem decodeElement_eq_done_iff_put {ws : List Value} :
    decodeElement start decode vs index d path = .done ws ↔ Reachable vs.length index ∧
      ∃ w, decode (vs.getD index start) d path = .done w ∧ putElement start vs index w = ws := by
  by_cases h : Reachable vs.length index
  · rw [decodeElement_of_reachable h, Outcome.map_eq_done_iff]
    simp [h]
  · rw [decodeElement_of_not_reachable h]
    simp [h]

theorem length_decodeElement (h : Reachable vs.length index) :
    (decodeElement start decode vs index d path).value.length = max vs.length (index + 1) := by
  rw [decodeElement_of_reachable h, Outcome.value_map, length_putElement]

theorem length_le_decodeElement :
    vs.length ≤ (decodeElement start decode vs index d path).value.length := by
  by_cases h : Reachable vs.length index
  · rw [length_decodeElement h]
    exact le_max_left _ _
  · rw [decodeElement_of_not_reachable h, Outcome.value_failed]

theorem indexStep_of_index? (h : elementIndex? e.1 = some index) :
    indexStep start decode path vs e =
      decodeElement start decode vs index e.2 (entryPath path e.1) := by
  obtain ⟨text, hkey⟩ := exists_keyText h path
  rw [elementIndex?_eq hkey] at h
  rw [entryPath_of_keyText hkey, indexStep, hkey]
  simp only [(index?_eq_some_iff (joinPath path text)).1 h]

theorem indexStep_of_text {text : String} (hkey : keyText? e.1 = some text)
    (hi : index? text = some index) : indexStep start decode path vs e =
      decodeElement start decode vs index e.2 (joinPath path text) := by
  have hindex : elementIndex? e.1 = some index := by
    rw [elementIndex?, hkey, Option.bind_some, hi]
  rw [indexStep_of_index? hindex, entryPath, hkey, Option.getD_some]

theorem indexStep_of_no_text (h : keyText? e.1 = none) :
    indexStep start decode path vs e = .failed vs (.coercion path (.unsupportedKey e.1)) := by
  simp [indexStep, keyText_eq_error_iff.2 ⟨h, rfl⟩]

theorem indexStep_of_error {text : String} {error : DecodeError} (hkey : keyText? e.1 = some text)
    (h : sequenceIndex text (joinPath path text) = .error error) :
    indexStep start decode path vs e = .failed vs error := by
  simp [indexStep, keyText_eq_ok_iff.2 hkey, h]

/-- An entry whose key is no index fails, whatever the elements are. -/
theorem indexStep_of_no_index (h : elementIndex? e.1 = none) (start : Value) (decode : Decoder)
    (path : String) : ∃ error, ∀ vs, indexStep start decode path vs e = .failed vs error := by
  cases hkey : keyText? e.1 with
  | none => exact ⟨_, fun _ => indexStep_of_no_text hkey⟩
  | some text =>
    cases hindex : sequenceIndex text (joinPath path text) with
    | error error => exact ⟨error, fun _ => indexStep_of_error hkey hindex⟩
    | ok index =>
      rw [elementIndex?, hkey, Option.bind_some, (index?_eq_some_iff _).2 hindex] at h
      cases h

theorem indexStep_eq_done_iff_index? {ws : List Value} :
    indexStep start decode path vs e = .done ws ↔ ∃ i, elementIndex? e.1 = some i ∧
      decodeElement start decode vs i e.2 (entryPath path e.1) = .done ws := by
  constructor
  · intro h
    cases hi : elementIndex? e.1 with
    | none =>
      obtain ⟨error, hfails⟩ := indexStep_of_no_index hi start decode path
      rw [hfails] at h
      exact absurd h Outcome.failed_ne_done
    | some i => exact ⟨i, rfl, by rwa [indexStep_of_index? hi] at h⟩
  · rintro ⟨i, hi, h⟩
    rwa [indexStep_of_index? hi]

end Sequences

/-- A scalar that is no string makes the only element of a sequence. -/
theorem decodeSequence_of_standsAlone {d : Document} (h : d.standsAlone = true) (start : Value)
    (decode : Decoder) (v : Value) (path : String) :
    decodeSequence start decode v d path = loneElement start decode v d path :=
  match d, h with
  | .bool _, _ | .number _, _ | .tagged _ _, _ => rfl

/-! ### Along a type -/

/-- Decoding a document onto a type comes to decoding a part of it onto a type within: an entry onto
what its key stands for, an item onto an element, a part of a comma string and a scalar alone onto a
new element. -/
inductive Shape.LeadsTo (t : Shape) (x : Document) : Shape → Document → Prop
  | here : LeadsTo t x t x
  | content {item : Shape} {d : Document} (h : LeadsTo t x item d) : LeadsTo t x (.option item) d
  | field {fields : Fields} {entries : List (Document × Document)} {e : Document × Document}
      {i : ℕ} {f : Field} (he : e ∈ entries) (hi : fields.place? e.1 = some i)
      (hf : fields.flatten[i]? = some f) (h : LeadsTo t x f.shape e.2) :
      LeadsTo t x (.record fields) (.mapping entries)
  | item {item : Shape} {ds : List Document} {d : Document} (hd : d ∈ ds)
      (h : LeadsTo t x item d) : LeadsTo t x (.sequence item) (.sequence ds)
  | indexed {item : Shape} {entries : List (Document × Document)} {e : Document × Document} {i : ℕ}
      (he : e ∈ entries) (hi : elementIndex? e.1 = some i) (h : LeadsTo t x item e.2) :
      LeadsTo t x (.sequence item) (.mapping entries)
  | part {item : Shape} {s part : String} (hpart : part ∈ commaParts s)
      (h : LeadsTo t x item (.string part)) : LeadsTo t x (.sequence item) (.string s)
  | lone {item : Shape} {d : Document} (hd : d.standsAlone = true) (h : LeadsTo t x item d) :
      LeadsTo t x (.sequence item) d

theorem Shape.LeadsTo.trans {r s t : Shape} {x y z : Document} (h : LeadsTo t z s y)
    (h' : LeadsTo s y r x) : LeadsTo t z r x := by
  induction h' with
  | here => exact h
  | content _ ih => exact .content ih
  | field he hi hf _ ih => exact .field he hi hf ih
  | item hd _ ih => exact .item hd ih
  | indexed he hi _ ih => exact .indexed he hi ih
  | part hpart _ ih => exact .part hpart ih
  | lone hd _ ih => exact .lone hd ih

theorem Shape.LeadsTo.within {t shape : Shape} {x d : Document} (h : LeadsTo t x shape d) :
    t.Within shape := by
  induction h with
  | here => exact .refl
  | content _ ih => exact .option ih
  | field _ _ hf _ ih => exact .record (List.mem_of_getElem? hf) ih
  | item _ _ ih => exact .sequence ih
  | indexed _ _ _ ih => exact .sequence ih
  | part _ _ ih => exact .sequence ih
  | lone _ _ ih => exact .sequence ih

/-- No index that a document uses on a sequence is above a bound. -/
def Shape.IndexesWithin (bound : ℕ) (shape : Shape) (d : Document) : Prop :=
  ∀ item entries, Shape.LeadsTo (.sequence item) (.mapping entries) shape d →
    ∀ e ∈ entries, ∀ i, elementIndex? e.1 = some i → i ≤ bound

/-- No two keys of one mapping stand for one field or for one element. -/
structure Shape.Unambiguous (shape : Shape) (d : Document) : Prop where
  fields : ∀ fields entries, Shape.LeadsTo (.record fields) (.mapping entries) shape d →
    entries.Pairwise fun a b => ∀ i, fields.place? a.1 = some i → fields.place? b.1 ≠ some i
  elements : ∀ item entries, Shape.LeadsTo (.sequence item) (.mapping entries) shape d →
    entries.Pairwise fun a b => ∀ i, elementIndex? a.1 = some i → elementIndex? b.1 ≠ some i

section

variable {shape t : Shape} {d x : Document}

theorem Shape.LeadsTo.indexesWithin {bound : ℕ} (h : LeadsTo t x shape d)
    (hd : shape.IndexesWithin bound d) : t.IndexesWithin bound x :=
  fun item entries hinner => hd item entries (hinner.trans h)

theorem Shape.LeadsTo.unambiguous (h : LeadsTo t x shape d) (hd : shape.Unambiguous d) :
    t.Unambiguous x where
  fields fields entries hinner := hd.fields fields entries (hinner.trans h)
  elements item entries hinner := hd.elements item entries (hinner.trans h)

/-! ### Over the entries of a mapping -/

theorem Shape.indexesWithin_leaf {bound : ℕ} {kind : Leaf} :
    (Shape.leaf kind).IndexesWithin bound d := by
  intro item entries h
  cases h

theorem Shape.indexesWithin_record {bound : ℕ} {fields : Fields}
    {entries : List (Document × Document)}
    (h : ∀ e ∈ entries, ∀ i f, fields.place? e.1 = some i → fields.flatten[i]? = some f →
      f.shape.IndexesWithin bound e.2) :
    (Shape.record fields).IndexesWithin bound (.mapping entries) := by
  intro item inner hleads
  cases hleads with
  | field he hi hf hinner => exact h _ he _ _ hi hf item inner hinner

theorem Shape.indexesWithin_sequence {bound : ℕ} {item : Shape}
    {entries : List (Document × Document)}
    (h : ∀ e ∈ entries, ∀ i, elementIndex? e.1 = some i →
      i ≤ bound ∧ item.IndexesWithin bound e.2) :
    (Shape.sequence item).IndexesWithin bound (.mapping entries) := by
  intro t inner hleads
  cases hleads with
  | here => exact fun e he i hi => (h e he i hi).1
  | indexed he hi hinner => exact (h _ he _ hi).2 t inner hinner
  | lone hd hinner => cases hd

theorem Shape.unambiguous_leaf {kind : Leaf} : (Shape.leaf kind).Unambiguous d where
  fields fields entries h := by cases h
  elements item entries h := by cases h

theorem Shape.unambiguous_record {fields : Fields} {entries : List (Document × Document)}
    (hkeys : entries.Pairwise fun a b => ∀ i, fields.place? a.1 = some i →
      fields.place? b.1 ≠ some i)
    (h : ∀ e ∈ entries, ∀ i f, fields.place? e.1 = some i → fields.flatten[i]? = some f →
      f.shape.Unambiguous e.2) : (Shape.record fields).Unambiguous (.mapping entries) where
  fields inner items hleads := by
    cases hleads with
    | here => exact hkeys
    | field he hi hf hinner => exact (h _ he _ _ hi hf).fields inner items hinner
  elements item items hleads := by
    cases hleads with
    | field he hi hf hinner => exact (h _ he _ _ hi hf).elements item items hinner

theorem Shape.unambiguous_sequence {item : Shape} {entries : List (Document × Document)}
    (hkeys : entries.Pairwise fun a b => ∀ i, elementIndex? a.1 = some i →
      elementIndex? b.1 ≠ some i)
    (h : ∀ e ∈ entries, ∀ i, elementIndex? e.1 = some i → item.Unambiguous e.2) :
    (Shape.sequence item).Unambiguous (.mapping entries) where
  fields inner items hleads := by
    cases hleads with
    | indexed he hi hinner => exact (h _ he _ hi).fields inner items hinner
    | lone hd hinner => cases hd
  elements t items hleads := by
    cases hleads with
    | here => exact hkeys
    | indexed he hi hinner => exact (h _ he _ hi).elements t items hinner
    | lone hd hinner => cases hd

end

end Schema

end LayeredConfig
