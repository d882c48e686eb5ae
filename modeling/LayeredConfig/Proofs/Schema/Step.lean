import LayeredConfig.Proofs.Outcome
import LayeredConfig.Schema.Decode

namespace LayeredConfig.Schema

/-! ### Records -/

def recordStep (table : List (String × Decoder)) (path : String) (vs : List Value)
    (e : Document × Document) : Decoded (List Value) :=
  match keyText e.1 path with
  | .error error => .failed vs error
  | .ok key => (decodeField (normalizeKey key) e.2 (joinPath path key) table vs).getD
      (.failed vs (.unknownKey (joinPath path key)))

theorem decodeRecord_mapping (table : List (String × Decoder)) (v : Value)
    (entries : List (Document × Document)) (path : String) :
    decodeRecord table v (.mapping entries) path =
      (Outcome.each (recordStep table path) v.fields entries).map .record := rfl

/-- The first field with a name is the one that is decoded onto. -/
theorem decodeField_of_first {name : String} (decode : Decoder)
    {table₁ : List (String × Decoder)} (table₂ : List (String × Decoder)) {us : List Value}
    (v : Value) (ws : List Value) (d : Document) (path : String)
    (hlength : us.length = table₁.length) (hfirst : ∀ e ∈ table₁, e.1 ≠ name) :
    decodeField name d path (table₁ ++ (name, decode) :: table₂) (us ++ v :: ws) =
      some ((decode v d path).map fun w => us ++ w :: ws) := by
  induction table₁ generalizing us with
  | nil =>
    obtain rfl := List.length_eq_zero_iff.1 hlength
    simp [decodeField]
  | cons e table₁ ih =>
    obtain ⟨u, us, rfl⟩ := List.exists_cons_of_length_eq_add_one hlength
    -- A field of another name is passed over together with its value.
    have hne : e.1 ≠ name := hfirst e (by simp)
    rw [List.cons_append, List.cons_append, decodeField, if_neg hne,
      ih (by simpa using hlength) fun e' he' => hfirst e' (by simp [he'])]
    rfl

theorem decodeField_eq_some {name : String} {d : Document} {path : String}
    {table : List (String × Decoder)} {vs : List Value} {o : Decoded (List Value)}
    (h : decodeField name d path table vs = some o) :
    ∃ table₁ decode table₂ us v ws, table = table₁ ++ (name, decode) :: table₂ ∧
      vs = us ++ v :: ws ∧ us.length = table₁.length ∧ (∀ e ∈ table₁, e.1 ≠ name) ∧
      o = (decode v d path).map fun w => us ++ w :: ws := by
  induction table generalizing vs o with
  | nil => simp [decodeField] at h
  | cons e table ih =>
    obtain ⟨key, decode⟩ := e
    cases vs with
    | nil => simp [decodeField] at h
    | cons v vs =>
      by_cases hkey : key = name
      · subst hkey
        rw [decodeField, if_pos rfl] at h
        exact ⟨[], decode, table, [], v, vs, rfl, rfl, rfl, by simp, (Option.some.inj h).symm⟩
      · rw [decodeField, if_neg hkey, Option.map_eq_some_iff] at h
        obtain ⟨o', ho', rfl⟩ := h
        obtain ⟨table₁, decode', table₂, us, w, ws, rfl, rfl, hlength, hfirst, rfl⟩ := ih ho'
        refine ⟨(key, decode) :: table₁, decode', table₂, v :: us, w, ws, rfl, rfl, ?_, ?_, rfl⟩
        · simp [hlength]
        · simpa [hkey] using hfirst

namespace Fields

/-- The first field with a name among the values of a record: what stands before and after it. -/
structure Found (fields : Fields) (vs : List Value) (name : String) where
  before : List Field
  field : Field
  after : List Field
  valuesBefore : List Value
  value : Value
  valuesAfter : List Value
  flatten_eq : fields.flatten = before ++ field :: after
  values_eq : vs = valuesBefore ++ value :: valuesAfter
  length_eq : valuesBefore.length = before.length
  key_eq : field.key = name
  first : ∀ f ∈ before, f.key ≠ name

namespace Found

variable {fields : Fields} {vs : List Value} {name : String}

def put (r : fields.Found vs name) (w : Value) : List Value := r.valuesBefore ++ w :: r.valuesAfter

def renew (r : fields.Found vs name) (w : Value) : fields.Found (r.put w) name :=
  { r with value := w, values_eq := rfl }

@[simp] theorem put_value (r : fields.Found vs name) : r.put r.value = vs := r.values_eq.symm

@[simp] theorem value_renew (r : fields.Found vs name) (w : Value) : (r.renew w).value = w := rfl

@[simp] theorem field_renew (r : fields.Found vs name) (w : Value) :
    (r.renew w).field = r.field := rfl

@[simp] theorem put_renew (r : fields.Found vs name) (w u : Value) :
    (r.renew w).put u = r.put u := rfl

theorem field_mem (r : fields.Found vs name) : r.field ∈ fields.flatten := by
  rw [r.flatten_eq]
  simp

end Found

theorem decodeField_found {fields : Fields} {vs : List Value} {name : String}
    (r : fields.Found vs name) (d : Document) (path : String) :
    decodeField name d path fields.decoders vs =
      some ((r.field.shape.decode r.value d path).map r.put) := by
  have hfirst : ∀ e ∈ r.before.map fun f => (f.key, f.shape.decode), e.1 ≠ name := by
    intro e he
    obtain ⟨f, hf, rfl⟩ := List.mem_map.1 he
    exact r.first f hf
  have h := decodeField_of_first r.field.shape.decode
    (r.after.map fun f => (f.key, f.shape.decode)) r.value r.valuesAfter d path
    (by simpa using r.length_eq) hfirst
  rw [← r.values_eq] at h
  rw [decoders_eq, r.flatten_eq, List.map_append, List.map_cons, r.key_eq]
  exact h

theorem exists_found {fields : Fields} {vs : List Value} {name : String} {d : Document}
    {path : String} {o : Decoded (List Value)}
    (h : decodeField name d path fields.decoders vs = some o) :
    ∃ r : fields.Found vs name, o = (r.field.shape.decode r.value d path).map r.put := by
  obtain ⟨table₁, decode, table₂, us, v, ws, htable, hvs, hlength, hfirst, rfl⟩ :=
    decodeField_eq_some h
  rw [decoders_eq, List.map_eq_append_iff] at htable
  obtain ⟨before, rest, hflatten, rfl, hrest⟩ := htable
  rw [List.map_eq_cons_iff] at hrest
  obtain ⟨f, after, rfl, hf, -⟩ := hrest
  obtain ⟨hkey, rfl⟩ := Prod.mk.inj hf
  have hnot : ∀ g ∈ before, g.key ≠ name := fun g hg =>
    hfirst (g.key, g.shape.decode) (List.mem_map.2 ⟨g, hg, rfl⟩)
  exact ⟨⟨before, f, after, us, v, ws, hflatten, hvs, by simpa using hlength, hkey, hnot⟩, rfl⟩

end Fields

/-- A key has one text, wherever it stands. -/
theorem keyText_eq_ok_of_path {key : Document} {path text : String} (other : String)
    (h : keyText key path = .ok text) : keyText key other = .ok text := by
  cases key <;> simp_all [keyText]

/-- A step onto a record reaches the first field that the key names, or nothing. -/
theorem recordStep_cases (fields : Fields) (path : String) (vs : List Value)
    (e : Document × Document) :
    (∃ error, recordStep fields.decoders path vs e = .failed vs error) ∨
      ∃ key, keyText e.1 path = .ok key ∧ ∃ r : fields.Found vs (normalizeKey key),
        recordStep fields.decoders path vs e =
          (r.field.shape.decode r.value e.2 (joinPath path key)).map r.put := by
  unfold recordStep
  cases hkey : keyText e.1 path with
  | error error => exact .inl ⟨error, rfl⟩
  | ok key =>
    cases hfield : decodeField (normalizeKey key) e.2 (joinPath path key) fields.decoders vs with
    | none => exact .inl ⟨.unknownKey (joinPath path key), by simp [hfield]⟩
    | some o =>
      obtain ⟨r, rfl⟩ := Fields.exists_found hfield
      exact .inr ⟨key, rfl, r, by simp [hfield]⟩

theorem recordStep_found {fields : Fields} {path : String} {vs : List Value}
    {e : Document × Document} {key : String} (hkey : keyText e.1 path = .ok key)
    (r : fields.Found vs (normalizeKey key)) : recordStep fields.decoders path vs e =
      (r.field.shape.decode r.value e.2 (joinPath path key)).map r.put := by
  simp [recordStep, hkey, Fields.decodeField_found r]

theorem recordStep_eq_done_iff {fields : Fields} {path : String} {vs ws : List Value}
    {e : Document × Document} : recordStep fields.decoders path vs e = .done ws ↔
      ∃ key, keyText e.1 path = .ok key ∧ ∃ r : fields.Found vs (normalizeKey key), ∃ w,
        r.field.shape.decode r.value e.2 (joinPath path key) = .done w ∧ r.put w = ws := by
  constructor
  · intro h
    rcases recordStep_cases fields path vs e with ⟨error, he⟩ | ⟨key, hkey, r, hr⟩
    · rw [he] at h
      exact absurd h Outcome.failed_ne_done
    · rw [hr, Outcome.map_eq_done_iff] at h
      exact ⟨key, hkey, r, h⟩
  · rintro ⟨key, hkey, r, w, hw, rfl⟩
    rw [recordStep_found hkey r, hw, Outcome.map_done]

/-! ### Options -/

/-- What is no null is built where there is no content. -/
theorem decodeOption_new_eq_done_iff {decode : Decoder} {build : Builder} {v v' : Value}
    (hv : ∀ content, v ≠ .set content) {d : Document} (hnull : d.isNull = false) {path : String} :
    decodeOption decode build v d path = .done v' ↔
      ∃ content, build d path = .ok content ∧ .set content = v' := by
  cases hbuild : build d path with
  | ok built =>
    have hstep : decodeOption decode build v d path = .done (.set built) := by
      cases v with
      | set content => exact absurd rfl (hv content)
      | _ => simp [decodeOption, hnull, hbuild]
    simp [hstep]
  | error e =>
    have hstep : decodeOption decode build v d path = .failed v e := by
      cases v with
      | set content => exact absurd rfl (hv content)
      | _ => simp [decodeOption, hnull, hbuild]
    simp [hstep]

/-! ### Sequences -/

def itemStep (start : Value) (decode : Decoder) (path : String) (vs : List Value)
    (e : Document × Nat) : Decoded (List Value) :=
  decodeElement start decode vs e.2 e.1 (joinPath path (toString e.2))

def indexStep (start : Value) (decode : Decoder) (path : String) (vs : List Value)
    (e : Document × Document) : Decoded (List Value) :=
  match keyText e.1 path with
  | .error error => .failed vs error
  | .ok key => match sequenceIndex key (joinPath path key) with
    | .error error => .failed vs error
    | .ok index => decodeElement start decode vs index e.2 (joinPath path key)

theorem decodeSequence_sequence (start : Value) (decode : Decoder) (v : Value)
    (ds : List Document) (path : String) : decodeSequence start decode v (.sequence ds) path =
      (Outcome.each (itemStep start decode path) v.elements ds.zipIdx).map .items := rfl

theorem decodeSequence_mapping (start : Value) (decode : Decoder) (v : Value)
    (entries : List (Document × Document)) (path : String) :
    decodeSequence start decode v (.mapping entries) path =
      (Outcome.each (indexStep start decode path) v.elements entries).map .items := rfl

theorem seeded_eq_ok_iff {start v : Value} {decode : Decoder} {d : Document} {path : String} :
    seeded start decode d path = .ok v ↔ decode start d path = .done v :=
  Outcome.toExcept_eq_ok_iff

theorem seeded_eq_error_iff {start : Value} {decode : Decoder} {d : Document} {path : String}
    {e : DecodeError} :
    seeded start decode d path = .error e ↔ (decode start d path).error = some e := by
  rw [seeded, Outcome.toExcept_eq_error_iff, Outcome.eq_failed_iff]
  exact and_iff_left rfl

def loneElement (start : Value) (decode : Decoder) (v : Value) (d : Document) (path : String) :
    Decoded Value :=
  match seeded start decode d (joinPath path "0") with
  | .ok element => .done (.items [element])
  | .error e => .failed v e

theorem loneElement_eq_done_iff {start v v' : Value} {decode : Decoder} {d : Document}
    {path : String} : loneElement start decode v d path = .done v' ↔
      ∃ w, decode start d (joinPath path "0") = .done w ∧ .items [w] = v' := by
  cases h : seeded start decode d (joinPath path "0") with
  | error e =>
    have hnot (w : Value) : decode start d (joinPath path "0") ≠ .done w := fun hw => by
      cases h.symm.trans (seeded_eq_ok_iff.2 hw)
    simp [loneElement, h, hnot]
  | ok element => simp [loneElement, h, seeded_eq_ok_iff.1 h]

theorem error_loneElement {start v : Value} {decode : Decoder} {d : Document} {path : String} :
    (loneElement start decode v d path).error = (decode start d (joinPath path "0")).error := by
  cases h : seeded start decode d (joinPath path "0") with
  | error e => rw [loneElement, h, seeded_eq_error_iff.1 h, Outcome.error_failed]
  | ok element =>
    rw [loneElement, h, seeded_eq_ok_iff.1 h, Outcome.error_done, Outcome.error_done]

/-- The index of a key is its number, within a word. -/
theorem sequenceIndex_eq_ok_iff {key path : String} {index : ℕ} :
    sequenceIndex key path = .ok index ↔
      Decimal.unsigned? 10 (Text.trimChars key.toList) = some index ∧ index < 2 ^ 64 := by
  unfold sequenceIndex
  dsimp only
  cases Decimal.unsigned? 10 (Text.trimChars key.toList) with
  | none => simp
  | some i =>
    by_cases hi : i < 2 ^ 64
    · simp only [if_pos hi, Except.ok.injEq, Option.some.injEq]
      exact ⟨fun h => ⟨h, h ▸ hi⟩, fun h => h.1⟩
    · -- A number beyond a word is refused, whatever the error says.
      have hnot : ¬(some i = some index ∧ index < 2 ^ 64) := by
        rintro ⟨h, hlt⟩
        exact hi (Option.some.inj h ▸ hlt)
      simp only [if_neg hi, hnot, iff_false]
      split <;> simp

/-- Growing adds start values, as few as the index needs. -/
theorem grow?_eq_some_iff {start : Value} {vs ws : List Value} {index : ℕ} :
    grow? start vs index = some ws ↔
      (index < vs.length ∨ index - vs.length ≤ maxGrowth ∧ index + 1 < 2 ^ 64) ∧
        ws = vs ++ List.replicate (index + 1 - vs.length) start := by
  unfold grow?
  split
  · next h =>
    have hzero : index + 1 - vs.length = 0 := by omega
    simp [h, hzero, eq_comm]
  · next h =>
    split
    · next hgrow => simp [h, hgrow, eq_comm]
    · next hgrow =>
      constructor
      · intro hnone
        cases hnone
      · rintro ⟨hlt | hgrow', -⟩
        · exact absurd hlt h
        · exact absurd hgrow' hgrow

theorem grow?_of_lt {start : Value} {vs : List Value} {index : ℕ} (h : index < vs.length) :
    grow? start vs index = some vs := by
  simp [grow?, h]

theorem lt_length_of_grow? {start : Value} {vs ws : List Value} {index : ℕ}
    (h : grow? start vs index = some ws) : index < ws.length := by
  obtain ⟨-, rfl⟩ := grow?_eq_some_iff.1 h
  simp only [List.length_append, List.length_replicate]
  omega

theorem decodeElement_of_grow? {start : Value} {decode : Decoder} {vs grown : List Value}
    {index : ℕ} (h : grow? start vs index = some grown) (d : Document) (path : String) :
    decodeElement start decode vs index d path =
      (decode (grown.getD index start) d path).map (grown.set index) := by
  simp [decodeElement, h]

theorem decodeElement_eq_done_iff {start : Value} {decode : Decoder} {vs ws : List Value}
    {index : ℕ} {d : Document} {path : String} :
    decodeElement start decode vs index d path = .done ws ↔
      ∃ grown, grow? start vs index = some grown ∧
        ∃ w, decode (grown.getD index start) d path = .done w ∧ grown.set index w = ws := by
  cases h : grow? start vs index with
  | none => simp [decodeElement, h]
  | some grown => simp [decodeElement_of_grow? h, Outcome.map_eq_done_iff]

/-- A step onto a sequence reaches one element, or nothing. -/
theorem indexStep_cases (start : Value) (decode : Decoder) (path : String) (vs : List Value)
    (e : Document × Document) :
    (∃ error, indexStep start decode path vs e = .failed vs error) ∨
      ∃ key index, keyText e.1 path = .ok key ∧
        sequenceIndex key (joinPath path key) = .ok index ∧
        indexStep start decode path vs e =
          decodeElement start decode vs index e.2 (joinPath path key) := by
  unfold indexStep
  cases hkey : keyText e.1 path with
  | error error => exact .inl ⟨error, rfl⟩
  | ok key =>
    cases hindex : sequenceIndex key (joinPath path key) with
    | error error => exact .inl ⟨error, by simp [hindex]⟩
    | ok index => exact .inr ⟨key, index, rfl, hindex, by simp [hindex]⟩

theorem indexStep_eq_done_iff {start : Value} {decode : Decoder} {path : String}
    {vs ws : List Value} {e : Document × Document} :
    indexStep start decode path vs e = .done ws ↔
      ∃ key index, keyText e.1 path = .ok key ∧
        sequenceIndex key (joinPath path key) = .ok index ∧
        decodeElement start decode vs index e.2 (joinPath path key) = .done ws := by
  constructor
  · intro h
    rcases indexStep_cases start decode path vs e with ⟨error, he⟩ | ⟨key, index, hkey, hindex, he⟩
    · rw [he] at h
      exact absurd h Outcome.failed_ne_done
    · exact ⟨key, index, hkey, hindex, he ▸ h⟩
  · rintro ⟨key, index, hkey, hindex, h⟩
    simp only [indexStep, hkey, hindex, h]

/-! ### The parts of a comma string -/

section Parts

variable {start : Value} {decode : Decoder} {path part : String} {parts : List String} {index : ℕ}
  {e : DecodeError}

theorem decodeParts_cons_eq_ok_iff {vs : List Value} :
    decodeParts start decode path index (part :: parts) = .ok vs ↔
      ∃ u us, decode start (.string part) (joinPath path (toString index)) = .done u ∧
        decodeParts start decode path (index + 1) parts = .ok us ∧ vs = u :: us := by
  rw [decodeParts]
  simp only [← seeded_eq_ok_iff]
  cases seeded start decode (.string part) (joinPath path (toString index)) with
  | error e => simp [bind, Except.bind]
  | ok u =>
    cases decodeParts start decode path (index + 1) parts with
    | error e => simp [bind, Except.bind]
    | ok us => simp [bind, Except.bind, pure, Except.pure, eq_comm]

theorem decodeParts_cons_eq_error_iff :
    decodeParts start decode path index (part :: parts) = .error e ↔
      (decode start (.string part) (joinPath path (toString index))).error = some e ∨
        ∃ u, decode start (.string part) (joinPath path (toString index)) = .done u ∧
          decodeParts start decode path (index + 1) parts = .error e := by
  rw [decodeParts]
  simp only [← seeded_eq_ok_iff, ← seeded_eq_error_iff]
  cases seeded start decode (.string part) (joinPath path (toString index)) with
  | error e => simp [bind, Except.bind]
  | ok u =>
    cases decodeParts start decode path (index + 1) parts with
    | error e => simp [bind, Except.bind]
    | ok us => simp [bind, Except.bind, pure, Except.pure]

/-- The parts fail where the first one does that fails. -/
theorem decodeParts_eq_error_iff : decodeParts start decode path index parts = .error e ↔
    ∃ before part after us, parts = before ++ part :: after ∧
      decodeParts start decode path index before = .ok us ∧
      (decode start (.string part) (joinPath path (toString (index + before.length)))).error =
        some e := by
  constructor
  · intro h
    induction parts generalizing index with
    | nil => cases h
    | cons part parts ih =>
      rcases decodeParts_cons_eq_error_iff.1 h with hpart | ⟨u, hu, hrest⟩
      · exact ⟨[], part, parts, [], rfl, rfl, hpart⟩
      · obtain ⟨before, other, after, us, rfl, hbefore, hother⟩ := ih hrest
        refine ⟨part :: before, other, after, u :: us, rfl,
          decodeParts_cons_eq_ok_iff.2 ⟨u, us, hu, hbefore, rfl⟩, ?_⟩
        rwa [List.length_cons, Nat.add_comm before.length, ← Nat.add_assoc]
  · rintro ⟨before, part, after, us, rfl, hbefore, hpart⟩
    induction before generalizing index us with
    | nil => exact decodeParts_cons_eq_error_iff.2 (.inl hpart)
    | cons first before ih =>
      obtain ⟨u, us, hu, hrest, rfl⟩ := decodeParts_cons_eq_ok_iff.1 hbefore
      rw [List.length_cons, Nat.add_comm before.length, ← Nat.add_assoc] at hpart
      exact decodeParts_cons_eq_error_iff.2 (.inr ⟨u, hu, ih us hrest hpart⟩)

end Parts

/-! ### The first step that fails -/

section First

variable {item : Shape} {fields : Fields} {v : Value} {path : String} {e : DecodeError}

theorem Shape.error_decode_record_iff {entries : List (Document × Document)} :
    ((Shape.record fields).decode v (.mapping entries) path).error = some e ↔
      ∃ before entry after us, entries = before ++ entry :: after ∧
        Outcome.each (recordStep fields.decoders path) v.fields before = .done us ∧
        (recordStep fields.decoders path us entry).error = some e := by
  rw [decode, decodeRecord_mapping, Outcome.error_map, Outcome.error_each_eq_some_iff]

theorem Shape.error_decode_indexed_iff {entries : List (Document × Document)} :
    ((Shape.sequence item).decode v (.mapping entries) path).error = some e ↔
      ∃ before entry after us, entries = before ++ entry :: after ∧
        Outcome.each (indexStep item.start item.decode path) v.elements before = .done us ∧
        (indexStep item.start item.decode path us entry).error = some e := by
  rw [decode, decodeSequence_mapping, Outcome.error_map, Outcome.error_each_eq_some_iff]

theorem Shape.error_decode_items_iff {ds : List Document} :
    ((Shape.sequence item).decode v (.sequence ds) path).error = some e ↔
      ∃ before d after us, ds = before ++ d :: after ∧
        Outcome.each (itemStep item.start item.decode path) v.elements before.zipIdx = .done us ∧
        (itemStep item.start item.decode path us (d, before.length)).error = some e := by
  rw [decode, decodeSequence_sequence, Outcome.error_map, Outcome.error_each_eq_some_iff]
  constructor
  · rintro ⟨numbered, ⟨d, index⟩, rest, us, hrow, hbefore, hd⟩
    obtain ⟨before, tail, rfl, rfl, htail⟩ := List.zipIdx_eq_append_iff.1 hrow
    obtain ⟨d, after, rfl, hitem, -⟩ := List.zipIdx_eq_cons_iff.1 htail.symm
    obtain ⟨rfl, rfl⟩ := Prod.mk.inj hitem
    rw [Nat.zero_add] at hd
    exact ⟨before, d, after, us, rfl, hbefore, hd⟩
  · rintro ⟨before, d, after, us, rfl, hbefore, hd⟩
    refine ⟨before.zipIdx, (d, before.length), after.zipIdx (before.length + 1), us, ?_, hbefore,
      hd⟩
    rw [List.zipIdx_append, List.zipIdx_cons, Nat.zero_add]

theorem Shape.error_decode_parts_iff {s : String} :
    ((Shape.sequence item).decode v (.string s) path).error = some e ↔
      ∃ before part after us, commaParts s = before ++ part :: after ∧
        decodeParts item.start item.decode path 0 before = .ok us ∧
        (item.decode item.start (.string part)
          (joinPath path (toString before.length))).error = some e := by
  have h := @decodeParts_eq_error_iff item.start item.decode path (commaParts s) 0 e
  simp only [Nat.zero_add] at h
  rw [← h, decode, decodeSequence]
  cases decodeParts item.start item.decode path 0 (commaParts s) <;> simp

end First

end LayeredConfig.Schema
