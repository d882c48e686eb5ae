import LayeredConfig.Proofs.Document.Mapping
import LayeredConfig.Proofs.Schema.Cut
import LayeredConfig.Proofs.Schema.Frame
import LayeredConfig.Proofs.Schema.RoundTrip

namespace LayeredConfig

namespace Schema

/-! ### Fields of one name -/

structure Fields.IsLast (fields : Fields) (i : ℕ) (f : Field) : Prop where
  getElem?_eq : fields.flatten[i]? = some f
  last : ∀ g ∈ fields.flatten.drop (i + 1), g.key ≠ f.key

def Fields.Shadowed (fields : Fields) (j : ℕ) : Prop :=
  ∃ i f g, i < j ∧ fields.flatten[i]? = some f ∧ fields.flatten[j]? = some g ∧ f.key = g.key

variable {shape item : Shape} {fields : Fields} {f : Field} {v u w : Value} {vs : List Value}
  {d : Document} {path text : String} {turns : List Turn} {i j : ℕ} {key : Document}

/-- No key stands for a field behind another one of its name. -/
theorem Fields.Shadowed.place?_ne (hj : fields.Shadowed j) (key : Document) :
    fields.place? key ≠ some j := by
  obtain ⟨i, f, g, hij, hf, hg, hname⟩ := hj
  intro hplace
  obtain ⟨text, -, hselect⟩ := Option.bind_eq_some_iff.1 hplace
  obtain ⟨g', ⟨hg', hfirst⟩, -⟩ := select?_eq_some_iff.1 hselect
  obtain rfl := Option.some.inj (hg.symm.trans hg')
  obtain ⟨hlt, rfl⟩ := List.getElem?_eq_some_iff.1 hf
  exact hfirst _ (List.mem_take_iff_getElem.2 ⟨i, by omega, rfl⟩) hname

/-! ### What encoding shows -/

/-- The entries of a record's document: one for each name of a field, in the order of the first
fields of the names, each with the value of the last field of its name. -/
structure Fields.Shows (fields : Fields) (vs : List Value) (entries : List (Document × Document)) :
    Prop where
  keys_eq : entries.map Prod.fst = ((fields.flatten.map Field.key).eraseDups).map .string
  distinct : (entries.map Prod.fst).Nodup
  last : ∀ e ∈ entries, ∃ i f v, fields.IsLast i f ∧ vs[i]? = some v ∧ e = f.entry v

def Fields.written (fields : Fields) (vs : List Value) : List (String × Document) :=
  List.zipWith (fun f v => (f.key, f.shape.encode v)) fields.flatten vs

theorem Fields.named_written (fields : Fields) (vs : List Value) :
    Document.named (fields.written vs) = List.zipWith Field.entry fields.flatten vs := by
  rw [Document.named, written, List.map_zipWith]
  rfl

theorem Fields.map_fst_written (hlength : vs.length = fields.flatten.length) :
    (fields.written vs).map Prod.fst = fields.flatten.map Field.key := by
  rw [written, List.map_zipWith]
  refine List.ext_getElem (by simp [hlength]) fun i hi hj => ?_
  simp

/-- The last entry of its name is written for the last field of that name. -/
theorem Fields.exists_isLast (hlength : vs.length = fields.flatten.length) {e : String × Document}
    (hi : (fields.written vs)[i]? = some e)
    (hlast : e.1 ∉ ((fields.written vs).map Prod.fst).drop (i + 1)) :
    ∃ i f v, fields.IsLast i f ∧ vs[i]? = some v ∧ (.string e.1, e.2) = f.entry v := by
  rw [written, List.getElem?_zipWith_eq_some] at hi
  obtain ⟨f, v, hf, hv, rfl⟩ := hi
  refine ⟨i, f, v, ⟨hf, fun g hg hname => hlast ?_⟩, hv, rfl⟩
  rw [map_fst_written hlength, ← List.map_drop]
  exact List.mem_map.2 ⟨g, hg, hname⟩

theorem Fields.exists_shows (hlength : vs.length = fields.flatten.length) :
    ∃ entries, (Shape.record fields).encode (.record vs) = .mapping entries ∧
      fields.Shows vs entries := by
  -- The mapping is made from the entries of all fields, so it keeps one of them for each name.
  obtain ⟨row, hrow, honce⟩ := Document.exists_ofEntries_named (fields.written vs)
  refine ⟨Document.named row, ?_, ?_, ?_, fun e he => ?_⟩
  · rw [Shape.encode, encoders_eq, Value.fields_record, encodeEntries_fields, ← named_written, hrow]
  · rw [Document.map_fst_named, honce.names_eq, map_fst_written hlength]
  · rw [Document.map_fst_named]
    exact honce.distinct.map fun _ _ h => Document.string.inj h
  · obtain ⟨x, hx, rfl⟩ := List.mem_map.1 he
    obtain ⟨i, hi, hlast⟩ := honce.last x hx
    exact exists_isLast hlength hi hlast

/-- Where no two names are alike, another value for a field changes that field's entry alone. -/
theorem encode_set (hdistinct : (fields.flatten.map Field.key).Nodup)
    (hlength : vs.length = fields.flatten.length) (hf : fields.flatten[i]? = some f) (w : Value) :
    (Shape.record fields).encode (.record (vs.set i w)) =
      .mapping ((List.zipWith Field.entry fields.flatten vs).set i (f.entry w)) := by
  rw [encode_record hdistinct (by simp [hlength])]
  congr 1
  obtain ⟨hlt, rfl⟩ := List.getElem?_eq_some_iff.1 hf
  refine List.ext_getElem (by simp) fun k hk hk' => ?_
  by_cases hik : i = k
  · subst hik
    simp
  · simp [List.getElem_set_ne hik]

/-! ### What decoding writes -/

/-- An entry is decoded onto the first field with the name, or refused where there is none. -/
theorem Fields.decode_entry (hlength : vs.length = fields.flatten.length) (key d : Document)
    (path : String) :
    (∃ text i f v, keyText? key = some text ∧ fields.IsFirst i f ∧ f.key = normalizeKey text ∧
      vs[i]? = some v ∧ (Shape.record fields).decode (.record vs) (.mapping [(key, d)]) path =
        (f.shape.decode v d (joinPath path text)).map fun w => .record (vs.set i w)) ∨
    ((∀ text, keyText? key = some text → ∀ f ∈ fields.flatten, f.key ≠ normalizeKey text) ∧
      ∃ e, (Shape.record fields).decode (.record vs) (.mapping [(key, d)]) path =
        .failed (.record vs) e) := by
  have hdecode : (Shape.record fields).decode (.record vs) (.mapping [(key, d)]) path =
      (recordStep fields.decoders path vs (key, d)).map .record := by
    rw [Shape.decode, decodeRecord_singleton, Value.fields_record]
  cases hplace : fields.place? key with
  | some i =>
    obtain ⟨text, htext, hselect⟩ := Option.bind_eq_some_iff.1 hplace
    obtain ⟨f, hfirst, hname⟩ := Fields.select?_eq_some_iff.1 hselect
    obtain ⟨hlt, -⟩ := List.getElem?_eq_some_iff.1 hfirst.getElem?_eq
    have hv : vs[i]? = some vs[i] := List.getElem?_eq_getElem (hlength ▸ hlt)
    refine .inl ⟨text, i, f, _, htext, hfirst, hname, hv, ?_⟩
    rw [hdecode, recordStep_of_text htext hselect hfirst.getElem?_eq hv]
    rfl
  | none =>
    obtain ⟨e, hfails⟩ := recordStep_of_no_place (e := (key, d)) hplace path
    refine .inr ⟨fun text htext f hf hname => ?_, e, by rw [hdecode, hfails]; rfl⟩
    rw [Fields.place?, htext, Option.bind_some, select?, List.findIdx?_eq_none_iff] at hplace
    simpa [hname] using hplace f hf

theorem Fields.decode_cons (v : Value) (e : Document × Document)
    (entries : List (Document × Document)) (path : String) :
    (Shape.record fields).decode v (.mapping (e :: entries)) path =
      ((Shape.record fields).decode v (.mapping [e]) path).andThen fun w =>
        (Shape.record fields).decode w (.mapping entries) path := by
  rw [Shape.decode, decodeRecord_mapping, decodeRecord_singleton, Outcome.each_cons]
  obtain ⟨ws, error⟩ := recordStep fields.decoders path v.fields e
  cases error <;> rfl

/-- Where no two names are alike, the field that an entry is decoded onto is the one that is shown
under its key. -/
theorem Fields.encode_decode_entry (hdistinct : (fields.flatten.map Field.key).Nodup)
    (hlength : vs.length = fields.flatten.length) {key : Document}
    (h : (Shape.record fields).decode (.record vs) (.mapping [(key, d)]) path = .done w) :
    ∃ text i f v u entries, keyText? key = some text ∧ fields.flatten[i]? = some f ∧
      f.key = normalizeKey text ∧ vs[i]? = some v ∧
      f.shape.decode v d (joinPath path text) = .done u ∧ w = .record (vs.set i u) ∧
      (Shape.record fields).encode (.record vs) = .mapping entries ∧
      entries[i]? = some (.string (normalizeKey text), f.shape.encode v) ∧
      (Shape.record fields).encode w =
        .mapping (entries.set i (.string (normalizeKey text), f.shape.encode u)) := by
  rcases decode_entry hlength key d path with
    ⟨text, i, f, v, htext, hfirst, hname, hv, hdecode⟩ | ⟨-, e, hfails⟩
  · obtain ⟨u, hu, rfl⟩ := Outcome.map_eq_done_iff.1 (hdecode.symm.trans h)
    refine ⟨text, i, f, v, u, _, htext, hfirst.getElem?_eq, hname, hv, hu, rfl,
      encode_record hdistinct hlength.symm, ?_, ?_⟩
    · rw [List.getElem?_zipWith_eq_some]
      exact ⟨f, v, hfirst.getElem?_eq, hv, by rw [Field.entry, hname]⟩
    · rw [encode_set hdistinct hlength hfirst.getElem?_eq, Field.entry, hname]
  · exact absurd (hfails.symm.trans h) Outcome.failed_ne_done

/-! ### What is replaced -/

inductive Shape.Reaches (t : Shape) : Shape → List Turn → Prop
  | here : Reaches t t []
  | field {fields : Fields} {i : ℕ} {f : Field} {turns : List Turn}
      (hf : fields.flatten[i]? = some f) (h : Reaches t f.shape turns) :
      Reaches t (.record fields) (.field i :: turns)
  | element {item : Shape} {i : ℕ} {turns : List Turn} (h : Reaches t item turns) :
      Reaches t (.sequence item) (.element i :: turns)
  | content {item : Shape} {turns : List Turn} (h : Reaches t item turns) :
      Reaches t (.option item) (.content :: turns)

/-- Decoding a document replaces the part of a value at the end of some turns: a scalar replaces the
elements of a sequence above it, or a null unsets an option above it. Entries and items after one
that fails are not decoded, and a scalar that does not fit leaves the elements as they are. -/
inductive Shape.Replaces : Shape → Value → Document → List Turn → Prop
  | parts {item : Shape} {v w : Value} {s path : String} {i : ℕ} {turns : List Turn}
      (h : (Shape.sequence item).decode v (.string s) path = .done w) :
      Replaces (.sequence item) v (.string s) (.element i :: turns)
  | lone {item : Shape} {v w : Value} {d : Document} {path : String} {i : ℕ} {turns : List Turn}
      (hd : d.standsAlone = true) (h : (Shape.sequence item).decode v d path = .done w) :
      Replaces (.sequence item) v d (.element i :: turns)
  | unset {item : Shape} {v : Value} {d : Document} {turns : List Turn} (hnull : d.isNull = true) :
      Replaces (.option item) v d (.content :: turns)
  | field {fields : Fields} {v u : Value} {entries before after : List (Document × Document)}
      {e : Document × Document} {ws : List Value} {path : String} {i : ℕ} {f : Field}
      {turns : List Turn} (hentries : entries = before ++ e :: after)
      (hbefore : Outcome.each (recordStep fields.decoders path) v.fields before = .done ws)
      (hi : fields.place? e.1 = some i) (hf : fields.flatten[i]? = some f) (hu : ws[i]? = some u)
      (h : Replaces f.shape u e.2 turns) :
      Replaces (.record fields) v (.mapping entries) (.field i :: turns)
  | item {item : Shape} {v u : Value} {ds before after : List Document} {d : Document}
      {ws : List Value} {path : String} {turns : List Turn} (hds : ds = before ++ d :: after)
      (hbefore : Outcome.each (itemStep item.start item.decode path) v.elements before.zipIdx =
        .done ws)
      (hu : ws[before.length]? = some u) (h : Replaces item u d turns) :
      Replaces (.sequence item) v (.sequence ds) (.element before.length :: turns)
  | indexed {item : Shape} {v u : Value} {entries before after : List (Document × Document)}
      {e : Document × Document} {ws : List Value} {path : String} {i : ℕ} {turns : List Turn}
      (hentries : entries = before ++ e :: after)
      (hbefore : Outcome.each (indexStep item.start item.decode path) v.elements before = .done ws)
      (hi : elementIndex? e.1 = some i) (hu : ws[i]? = some u) (h : Replaces item u e.2 turns) :
      Replaces (.sequence item) v (.mapping entries) (.element i :: turns)
  | content {item : Shape} {v : Value} {d : Document} {turns : List Turn}
      (h : Replaces item v d turns) : Replaces (.option item) (.set v) d (.content :: turns)

/-! ### What is kept -/

/-- A scalar that does not fit a sequence leaves it as it is. -/
theorem Shape.value_decode_of_misfit (hmapping : ∀ entries, d ≠ .mapping entries)
    (hsequence : ∀ ds, d ≠ .sequence ds)
    (h : ∀ w, (Shape.sequence item).decode v d path ≠ .done w) :
    ((Shape.sequence item).decode v d path).value = v := by
  cases herror : ((Shape.sequence item).decode v d path).error with
  | none => exact absurd (Outcome.eq_done_iff.2 ⟨herror, rfl⟩) (h _)
  | some e =>
    exact decodeSequence_scalar_untouched hmapping hsequence (Outcome.eq_failed_of_error herror)

/-- In a record that is not replaced, decoding keeps the fields behind others of their name. -/
theorem Shape.Reaches.at?_decode (h : (Shape.record fields).Reaches shape turns)
    (hj : fields.Shadowed j) (hnot : ¬shape.Replaces v d turns)
    (hu : v.at? (turns ++ [.field j]) = some u) :
    (shape.decode v d path).value.at? (turns ++ [.field j]) = some u := by
  -- The steps onto a record or a sequence keep the part below the first turn, each on what the
  -- steps before it left, since the entry or item does not replace what is below.
  induction h generalizing v d path with
  | here =>
    cases v with
    | record vs =>
      cases d with
      | mapping entries =>
        rw [decode, decodeRecord_mapping, Outcome.value_map]
        refine Outcome.each_keeps (I := fun ws => partAt ws j [] = some u) hu
          fun ws e _ hws => partAt_recordStep (fun f hplace => ?_) hws
        exact absurd hplace (hj.place?_ne e.1)
      | _ => exact hu
    | _ => cases hu
  | @field outer i f turns hf _ ih =>
    cases v with
    | record vs =>
      cases d with
      | mapping entries =>
        rw [decode, decodeRecord_mapping, Outcome.value_map]
        refine Outcome.each_keeps_of_before
          (I := fun ws => partAt ws i (turns ++ [Turn.field j]) = some u) hu
          fun before e after ws hentries hbefore hws => ?_
        refine partAt_recordStep (fun g hi hg w q hw => ?_) hws
        obtain rfl := Option.some.inj (hf.symm.trans hg)
        exact ih fun hreplaces => hnot (.field hentries hbefore hi hf hw hreplaces)
      | _ => exact hu
    | _ => cases hu
  | @element item i turns _ ih =>
    cases v with
    | items vs =>
      cases d with
      | null => exact hu
      | sequence ds =>
        rw [decode, decodeSequence_sequence, Outcome.value_map]
        refine Outcome.each_keeps_of_before
          (I := fun ws => partAt ws i (turns ++ [Turn.field j]) = some u) hu
          fun before e after ws hds hbefore hws => partAt_decodeElement (fun hij w hw => ?_) hws
        obtain ⟨before, tail, rfl, rfl, htail⟩ := List.zipIdx_eq_append_iff.1 hds
        obtain ⟨d, after, rfl, rfl, -⟩ := List.zipIdx_eq_cons_iff.1 htail.symm
        obtain rfl : before.length = i := by simpa using hij
        exact ih fun hreplaces => hnot (.item rfl hbefore hw hreplaces)
      | mapping entries =>
        rw [decode, decodeSequence_mapping, Outcome.value_map]
        refine Outcome.each_keeps_of_before
          (I := fun ws => partAt ws i (turns ++ [Turn.field j]) = some u) hu
          fun before e after ws hentries hbefore hws => ?_
        refine partAt_indexStep (fun hi w q hw => ?_) hws
        exact ih fun hreplaces => hnot (.indexed hentries hbefore hi hw hreplaces)
      | string s =>
        rwa [value_decode_of_misfit (by simp) (by simp) fun w hw => hnot (.parts hw)]
      | _ => rwa [value_decode_of_misfit (by simp) (by simp) fun w hw => hnot (.lone rfl hw)]
    | _ => cases hu
  | @content item turns _ ih =>
    cases v with
    | set content =>
      have hnull : ¬d.isNull = true := fun hnull => hnot (.unset hnull)
      rw [decode, decodeOption, if_neg hnull]
      exact ih (fun hreplaces => hnot (.content hreplaces)) hu
    | _ => cases hu

/-- A record is not replaced by what is decoded onto it. -/
theorem Shape.not_replaces_nil : ¬shape.Replaces v d [] := by
  intro h
  cases h

end Schema

open Schema

variable {shape : Shape} {fields : Fields} {v u : Value} {turns : List Turn} {j : ℕ}

def Edit.Replaces (shape : Shape) (v : Value) (turns : List Turn) : Edit → Prop
  | decode d _ => shape.Replaces v d turns
  | override scope vs => ∃ before o after w, Override.ofVariables scope vs = before ++ o :: after ∧
      Override.applyAll shape v before = .done w ∧ shape.Replaces w o.document turns

/-- None of the edits replaces that part of what the edits before it left. -/
def Edit.NoneReplaces (shape : Shape) (turns : List Turn) : Value → List Edit → Prop
  | _, [] => True
  | v, e :: edits => ¬e.Replaces shape v turns ∧ NoneReplaces shape turns (e.apply shape v) edits

theorem Edit.noneReplaces_nil (edits : List Edit) : Edit.NoneReplaces shape [] v edits := by
  induction edits generalizing v with
  | nil => trivial
  | cons e edits ih =>
    refine ⟨?_, ih⟩
    cases e with
    | decode d path => exact Shape.not_replaces_nil
    | override scope vs =>
      rintro ⟨before, o, after, w, -, -, h⟩
      exact Shape.not_replaces_nil h

theorem Schema.Shape.Reaches.at?_apply (h : (Shape.record fields).Reaches shape turns)
    (hj : fields.Shadowed j) {e : Edit} (hnot : ¬e.Replaces shape v turns)
    (hu : v.at? (turns ++ [.field j]) = some u) :
    (e.apply shape v).at? (turns ++ [.field j]) = some u := by
  cases e with
  | decode d path => exact h.at?_decode hj hnot hu
  | override scope vs =>
    refine Outcome.each_keeps_of_before (I := fun w : Value => w.at? (turns ++ [.field j]) = some u)
      hu fun before o after w ho hbefore hw => ?_
    exact h.at?_decode hj (fun hreplaces => hnot ⟨before, o, after, w, ho, hbefore, hreplaces⟩) hw

/-- Edits that do not replace a record keep its fields behind others of their name. -/
theorem Schema.Shape.Reaches.at?_foldl (h : (Shape.record fields).Reaches shape turns)
    (hj : fields.Shadowed j) {edits : List Edit} (hnot : Edit.NoneReplaces shape turns v edits)
    (hu : v.at? (turns ++ [.field j]) = some u) :
    (edits.foldl (Edit.apply shape) v).at? (turns ++ [.field j]) = some u := by
  induction edits generalizing v with
  | nil => exact hu
  | cons e edits ih => exact ih hnot.2 (h.at?_apply hj hnot.1 hu)

/-- A record that is built holds the starts of the fields behind others of their name. -/
theorem Schema.Fields.Shadowed.at?_build (hj : fields.Shadowed j) {g : Field}
    (hg : fields.flatten[j]? = some g) {d : Document} {path : String}
    (h : (Shape.record fields).build d path = .ok v) : v.at? [.field j] = some g.start := by
  -- To build is to decode onto the start, which holds the fields' starts.
  rw [Shape.build_record, seeded_eq_ok_iff] at h
  have hstart : (Shape.record fields).start.at? ([] ++ [.field j]) = some g.start := by
    simp [Shape.start, Value.at?, Value.part?, hg]
  have hkept : ((Shape.record fields).decode (Shape.record fields).start d path).value.at?
      ([] ++ [.field j]) = some g.start :=
    Shape.Reaches.here.at?_decode hj Shape.not_replaces_nil hstart
  rwa [h] at hkept

/-- A record's document has one entry for each name of a field, with the value of the last field of
that name. A key writes the first field of its name, and fields behind it keep what their record was
created with for as long as the record is not replaced. Where no two names are alike, what a key
writes is what its entry shows. -/
theorem Schema.Fields.decode_first_encode_last (fields : Fields) :
    (∀ vs, vs.length = fields.flatten.length → ∃ entries,
      (Shape.record fields).encode (.record vs) = .mapping entries ∧ fields.Shows vs entries) ∧
    (∀ vs key d path, vs.length = fields.flatten.length →
      (∃ text i f v, keyText? key = some text ∧ fields.IsFirst i f ∧ f.key = normalizeKey text ∧
        vs[i]? = some v ∧ (Shape.record fields).decode (.record vs) (.mapping [(key, d)]) path =
          (f.shape.decode v d (joinPath path text)).map fun w => .record (vs.set i w)) ∨
      ((∀ text, keyText? key = some text → ∀ f ∈ fields.flatten, f.key ≠ normalizeKey text) ∧
        ∃ e, (Shape.record fields).decode (.record vs) (.mapping [(key, d)]) path =
          .failed (.record vs) e)) ∧
    (∀ v e entries path, (Shape.record fields).decode v (.mapping (e :: entries)) path =
      ((Shape.record fields).decode v (.mapping [e]) path).andThen fun w =>
        (Shape.record fields).decode w (.mapping entries) path) ∧
    (∀ j, fields.Shadowed j →
      (∀ (v u : Value) (edits : List Edit), v.at? [.field j] = some u →
        (edits.foldl (Edit.apply (.record fields)) v).at? [.field j] = some u) ∧
      (∀ shape turns (v u : Value) edits, (Shape.record fields).Reaches shape turns →
        Edit.NoneReplaces shape turns v edits → v.at? (turns ++ [.field j]) = some u →
        (edits.foldl (Edit.apply shape) v).at? (turns ++ [.field j]) = some u) ∧
      ∀ g d path v, fields.flatten[j]? = some g → (Shape.record fields).build d path = .ok v →
        v.at? [.field j] = some g.start) ∧
    ((fields.flatten.map Field.key).Nodup → ∀ vs key d path w, vs.length = fields.flatten.length →
      (Shape.record fields).decode (.record vs) (.mapping [(key, d)]) path = .done w →
      ∃ text i f v u entries, keyText? key = some text ∧ fields.flatten[i]? = some f ∧
        f.key = normalizeKey text ∧ vs[i]? = some v ∧
        f.shape.decode v d (joinPath path text) = .done u ∧ w = .record (vs.set i u) ∧
        (Shape.record fields).encode (.record vs) = .mapping entries ∧
        entries[i]? = some (.string (normalizeKey text), f.shape.encode v) ∧
        (Shape.record fields).encode w =
          .mapping (entries.set i (.string (normalizeKey text), f.shape.encode u))) := by
  refine ⟨fun vs hlength => exists_shows hlength,
    fun vs key d path hlength => decode_entry hlength key d path, decode_cons, fun j hj => ?_,
    fun hdistinct vs key d path w hlength h => encode_decode_entry hdistinct hlength h⟩
  refine ⟨fun v u edits hu => ?_, fun shape turns v u edits h hnot hu => h.at?_foldl hj hnot hu,
    fun g d path v hg h => hj.at?_build hg h⟩
  exact Shape.Reaches.here.at?_foldl hj (Edit.noneReplaces_nil edits) hu

/-- A field of an inline record lies behind one of its name. The first one is written, by overrides
and by an entry before one that fails, and the other one is shown. -/
theorem Schema.Fields.decode_first_encode_last_inline :
    let inner : Fields := .plain "ab" (.leaf .string) (.scalar (.text "start")) <|
      .plain "other" (.leaf (.integer .u8)) (.scalar (.integer 7)) .nil
    let fields : Fields := .plain "a_b" (.leaf (.integer .u8)) (.scalar (.integer 1)) <|
      .inline "hidden" inner .nil
    let innerOf (other : Int) : Value := .record [.scalar (.text "old"), .scalar (.integer other)]
    let recordOf (first : Int) : Value :=
      .record [.scalar (.integer first), .scalar (.text "old"), .scalar (.integer 7)]
    let overrides : Edit :=
      .override ⟨"P", "serve"⟩ [⟨"P_SERVE_AB", "3"⟩, ⟨"P_SERVE_HIDDEN", "4"⟩]
    let failing : Edit := .decode (.mapping [(.string "0", .mapping
      [(.string "A-B", .number (.integer 2)), (.string "hidden", .null)])]) ""
    (∃ entries, (Shape.record fields).encode (recordOf 1) = .mapping entries ∧
      entries.map Prod.fst = [.string "ab", .string "other"]) ∧
    (overrides.apply (.record fields) (recordOf 1)).at? [.field 1] =
      some (.scalar (.text "old")) ∧
    (failing.apply (.sequence (.record fields)) (.items [recordOf 1])).at?
      [.element 0, .field 1] = some (.scalar (.text "old")) ∧
    (∀ v, (Shape.record fields).build (.mapping [(.string "ab", .string "2")]) "" = .ok v →
      v.at? [.field 1] = some (.scalar (.text "start"))) ∧
    ∃ i d entries, (Shape.record inner).encode (innerOf 7) = .mapping entries ∧
      (Shape.record inner).encode (innerOf 9) =
        .mapping (List.set entries i (.string (normalizeKey "Other"), d)) := by
  intro inner fields innerOf recordOf overrides failing
  obtain ⟨hencode, -, -, hshadowed, -⟩ := decode_first_encode_last fields
  have hj : fields.Shadowed 1 := ⟨0, _, _, by decide, rfl, rfl, by decide +kernel⟩
  obtain ⟨hdirect, hnested, hbuild⟩ := hshadowed 1 hj
  have hnot : ¬failing.Replaces (.sequence (.record fields)) (.items [recordOf 1])
      [.element 0] := by
    intro h
    change Shape.Replaces (.sequence _) (.items _) (.mapping _) _ at h
    cases h with
    | lone hd => cases hd
    | indexed _ _ _ _ h => exact Shape.not_replaces_nil h
  refine ⟨?_, hdirect _ _ [overrides] rfl, ?_, fun v hv => hbuild _ _ _ v rfl hv, ?_⟩
  · obtain ⟨entries, hentries, hshows⟩ := hencode _ (rfl : [_, _, _].length = _)
    refine ⟨entries, hentries, hshows.keys_eq.trans ?_⟩
    rfl
  · exact hnested _ [.element 0] _ _ [failing] (.element .here) ⟨hnot, trivial⟩ rfl
  · obtain ⟨-, -, -, -, hshown⟩ := decode_first_encode_last inner
    obtain ⟨text, i, f, v, u, entries, htext, -, -, -, -, -, hold, -, hnew⟩ :=
      hshown (by decide +kernel) _ (.string "Other") (.string "9") "" (innerOf 9)
        (rfl : [_, _].length = _) rfl
    obtain rfl : "Other" = text := Option.some.inj htext
    exact ⟨i, _, entries, hold, hnew⟩

end LayeredConfig
