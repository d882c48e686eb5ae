import LayeredConfig.Environment.Override
import LayeredConfig.Proofs.Schema.LeafAt
import LayeredConfig.Proofs.Schema.Segment

namespace LayeredConfig.Schema

/-! ### Parts of values -/

def Value.contentOr : Value → Value → Value
  | .set content, _ => content
  | _, start => start

@[simp] theorem Value.contentOr_set {start content : Value} :
    (Value.set content).contentOr start = content := rfl

@[simp] theorem Value.elements_items {vs : List Value} : (Value.items vs).elements = vs := rfl

@[simp] theorem Value.fields_record {vs : List Value} : (Value.record vs).fields = vs := rfl

/-- The elements with another one at an index, after start values where there were fewer. -/
def putElement (start : Value) (vs : List Value) (i : ℕ) (w : Value) : List Value :=
  (vs ++ List.replicate (i + 1 - vs.length) start).set i w

section Elements

variable {start : Value} {vs : List Value} {i j : ℕ} {v w : Value}

@[simp] theorem length_putElement :
    (putElement start vs i w).length = max vs.length (i + 1) := by
  simp [putElement]
  omega

theorem getD_grown : (vs ++ List.replicate (i + 1 - vs.length) start).getD j start =
    vs.getD j start := by
  by_cases h : j < vs.length
  · rw [List.getD_append _ _ _ _ h]
  · rw [List.getD_append_right _ _ _ _ (not_lt.1 h), List.getD_eq_default _ _ (not_lt.1 h),
      List.getD_eq_getElem?_getD, List.getElem?_replicate]
    split <;> rfl

theorem getD_putElement : (putElement start vs i w).getD j start =
    if j = i then w else vs.getD j start := by
  by_cases h : j = i
  · subst h
    rw [if_pos rfl, List.getD_eq_getElem _ _ (by rw [length_putElement]; omega)]
    exact List.getElem_set_self _
  · rw [if_neg h, putElement, List.getD_eq_getElem?_getD, List.getElem?_set_ne (Ne.symm h),
      ← List.getD_eq_getElem?_getD, getD_grown]

/-- Sequences of one length with the same elements are equal. -/
theorem eq_of_getD (start : Value) {us : List Value} (hlength : us.length = vs.length)
    (h : ∀ j, us.getD j start = vs.getD j start) : us = vs := by
  refine List.ext_getElem hlength fun j hu hv => ?_
  have hj := h j
  rwa [List.getD_eq_getElem _ _ hu, List.getD_eq_getElem _ _ hv] at hj

theorem putElement_comm (h : i ≠ j) : putElement start (putElement start vs i v) j w =
    putElement start (putElement start vs j w) i v := by
  refine eq_of_getD start (by simp; omega) fun k => ?_
  simp only [getD_putElement]
  grind

theorem putElement_putElement : putElement start (putElement start vs i v) i w =
    putElement start vs i w := by
  refine eq_of_getD start (by simp) fun k => ?_
  simp only [getD_putElement]
  grind

end Elements

/-! ### Writing -/

/-- A content is written onto the part of a value that the segments lead to. -/
inductive Shape.Writes (content : String) : Shape → List String → Value → Value → Prop
  | here {shape : Shape} {v w : Value} (h : shape.decode v (.string content) "" = .done w) :
      Shape.Writes content shape [] v w
  | field {fields : Fields} {f : Field} {s : String} {ss : List String} {v u w : Value} {i : ℕ}
      (hs : fields.select? s = some i) (hf : fields.flatten[i]? = some f)
      (hu : v.fields[i]? = some u) (h : Shape.Writes content f.shape ss u w) :
      Shape.Writes content (.record fields) (s :: ss) v (.record (v.fields.set i w))
  | element {item : Shape} {s : String} {ss : List String} {v w : Value} {i : ℕ}
      (hs : index? s = some i)
      (h : Shape.Writes content item ss (v.elements.getD i item.start) w) :
      Shape.Writes content (.sequence item) (s :: ss) v
        (.items (putElement item.start v.elements i w))
  | option {item : Shape} {s : String} {ss : List String} {v w : Value}
      (h : Shape.Writes content item (s :: ss) (v.contentOr item.start) w) :
      Shape.Writes content (.option item) (s :: ss) v (.set w)

namespace Shape

variable {content other : String} {shape item : Shape} {ss ts : List String}
  {v u w : Value} {d : Document} {path : String}

theorem writes_nil_iff :
    shape.Writes content [] v w ↔ shape.decode v (.string content) "" = .done w :=
  ⟨fun h => by cases h; assumption, .here⟩

theorem writes_record_iff {fields : Fields} {f : Field} {s : String} {i : ℕ}
    (hs : fields.select? s = some i) (hf : fields.flatten[i]? = some f) :
    (Shape.record fields).Writes content (s :: ss) v w ↔
      ∃ u u', v.fields[i]? = some u ∧ f.shape.Writes content ss u u' ∧
        w = .record (v.fields.set i u') := by
  constructor
  · intro h
    cases h with
    | field hs' hf' hu h =>
      obtain rfl := Option.some.inj (hs.symm.trans hs')
      obtain rfl := Option.some.inj (hf.symm.trans hf')
      exact ⟨_, _, hu, h, rfl⟩
  · rintro ⟨u, u', hu, h, rfl⟩
    exact .field hs hf hu h

theorem writes_sequence_iff {s : String} {i : ℕ} (hs : index? s = some i) :
    (Shape.sequence item).Writes content (s :: ss) v w ↔
      ∃ u, item.Writes content ss (v.elements.getD i item.start) u ∧
        w = .items (putElement item.start v.elements i u) := by
  constructor
  · intro h
    cases h with
    | element hs' h =>
      obtain rfl := Option.some.inj (hs.symm.trans hs')
      exact ⟨_, h, rfl⟩
  · rintro ⟨u, h, rfl⟩
    exact .element hs h

theorem writes_option_iff (hss : ss ≠ []) : (Shape.option item).Writes content ss v w ↔
    ∃ u, item.Writes content ss (v.contentOr item.start) u ∧ w = .set u := by
  obtain ⟨s, ss, rfl⟩ := List.exists_cons_of_ne_nil hss
  constructor
  · intro h
    cases h with
    | option h => exact ⟨_, h, rfl⟩
  · rintro ⟨u, h, rfl⟩
    exact .option h

theorem Writes.unique (hu : shape.Writes content ss v u) (hw : shape.Writes content ss v w) :
    u = w := by
  induction hu generalizing w with
  | here hu => exact Outcome.done_inj.1 (hu.symm.trans (writes_nil_iff.1 hw))
  | field hs hf hv _ ih =>
    obtain ⟨u, u', hu, hu', rfl⟩ := (writes_record_iff hs hf).1 hw
    obtain rfl := Option.some.inj (hv.symm.trans hu)
    rw [ih hu']
  | element hs _ ih =>
    obtain ⟨u, hu, rfl⟩ := (writes_sequence_iff hs).1 hw
    rw [ih hu]
  | option _ ih =>
    obtain ⟨u, hu, rfl⟩ := (writes_option_iff (by simp)).1 hw
    rw [ih hu]

/-- Contents whose segments part ways can be written in either order. -/
theorem Writes.swap (hp : shape.PartWays ss ts) (hs : shape.Writes content ss v u)
    (ht : shape.Writes other ts u w) :
    ∃ u', shape.Writes other ts v u' ∧ shape.Writes content ss u' w := by
  induction hp generalizing v u w with
  | fields hi hj hne =>
    obtain ⟨f, hf⟩ := Fields.exists_of_select? hi
    obtain ⟨g, hg⟩ := Fields.exists_of_select? hj
    obtain ⟨a, a', ha, ha', rfl⟩ := (writes_record_iff hi hf).1 hs
    obtain ⟨b, b', hb, hb', rfl⟩ := (writes_record_iff hj hg).1 ht
    rw [Value.fields_record, List.getElem?_set_ne hne] at hb
    refine ⟨_, (writes_record_iff hj hg).2 ⟨b, b', hb, hb', rfl⟩,
      (writes_record_iff hi hf).2 ⟨a, a', ?_, ha', ?_⟩⟩
    · rwa [Value.fields_record, List.getElem?_set_ne hne.symm]
    · rw [Value.fields_record, Value.fields_record, List.set_comm _ _ hne]
  | field hi hj hf _ ih =>
    obtain ⟨a, a', ha, ha', rfl⟩ := (writes_record_iff hi hf).1 hs
    obtain ⟨b, b', hb, hb', rfl⟩ := (writes_record_iff hj hf).1 ht
    obtain ⟨hlt, -⟩ := List.getElem?_eq_some_iff.1 ha
    rw [Value.fields_record, List.getElem?_set_self hlt] at hb
    obtain rfl := Option.some.inj hb
    obtain ⟨u', hu', hw⟩ := ih ha' hb'
    refine ⟨_, (writes_record_iff hj hf).2 ⟨a, u', ha, hu', rfl⟩,
      (writes_record_iff hi hf).2 ⟨u', b', ?_, hw, ?_⟩⟩
    · rw [Value.fields_record, List.getElem?_set_self hlt]
    · rw [Value.fields_record, Value.fields_record, List.set_set, List.set_set]
  | elements hi hj hne =>
    obtain ⟨a, ha', rfl⟩ := (writes_sequence_iff hi).1 hs
    obtain ⟨b, hb', rfl⟩ := (writes_sequence_iff hj).1 ht
    rw [Value.elements_items, getD_putElement, if_neg hne.symm] at hb'
    refine ⟨_, (writes_sequence_iff hj).2 ⟨b, hb', rfl⟩, (writes_sequence_iff hi).2 ⟨a, ?_, ?_⟩⟩
    · rwa [Value.elements_items, getD_putElement, if_neg hne]
    · rw [Value.elements_items, Value.elements_items, putElement_comm hne]
  | element hi hj _ ih =>
    obtain ⟨a, ha', rfl⟩ := (writes_sequence_iff hi).1 hs
    obtain ⟨b, hb', rfl⟩ := (writes_sequence_iff hj).1 ht
    rw [Value.elements_items, getD_putElement, if_pos rfl] at hb'
    obtain ⟨u', hu', hw⟩ := ih ha' hb'
    refine ⟨_, (writes_sequence_iff hj).2 ⟨u', hu', rfl⟩,
      (writes_sequence_iff hi).2 ⟨b, ?_, ?_⟩⟩
    · rwa [Value.elements_items, getD_putElement, if_pos rfl]
    · rw [Value.elements_items, Value.elements_items, putElement_putElement,
        putElement_putElement]
  | option hp ih =>
    obtain ⟨a, ha', rfl⟩ := (writes_option_iff hp.left_ne_nil).1 hs
    obtain ⟨b, hb', rfl⟩ := (writes_option_iff hp.symm.left_ne_nil).1 ht
    obtain ⟨u', hu', hw⟩ := ih ha' hb'
    exact ⟨_, (writes_option_iff hp.symm.left_ne_nil).2 ⟨u', hu', rfl⟩,
      (writes_option_iff hp.left_ne_nil).2 ⟨b, hw, rfl⟩⟩

/-! ### Decoding an override -/

theorem isNull_of_keeps {kind : Leaf} (h : kind.keeps d = true) : d.isNull = true := by
  cases d <;> cases kind <;> simp_all [Leaf.keeps, Document.isNull]

/-- Building from what is not null is decoding onto the start value. -/
theorem build_eq (hnull : d.isNull = false) :
    shape.build d path = (shape.decode shape.start d path).toExcept := by
  cases shape with
  | leaf kind =>
    have hkeeps : kind.keeps d = false := by
      by_contra h
      simp [isNull_of_keeps (by simpa using h)] at hnull
    rw [build, buildLeaf, decode, start]
    split
    · rw [decodeLeaf, hkeeps, if_neg Bool.false_ne_true]
      cases kind.read d <;> rfl
    · rfl
  | option item =>
    simp only [build, buildOption, decode, decodeOption, start, hnull]
    cases item.build d path <;> rfl
  | sequence item => rfl
  | record fields => rfl

theorem build_eq_ok_iff (hnull : d.isNull = false) :
    shape.build d path = .ok w ↔ shape.decode shape.start d path = .done w := by
  rw [build_eq hnull, Outcome.toExcept_eq_ok_iff]

/-- What is not null is decoded onto the content of an option, or onto what a new one starts
with. -/
theorem decode_option_eq_done_iff (hnull : d.isNull = false) :
    (Shape.option item).decode v d path = .done w ↔
      ∃ u, item.decode (v.contentOr item.start) d path = .done u ∧ w = .set u := by
  by_cases hset : ∃ content, v = .set content
  · obtain ⟨content, rfl⟩ := hset
    rw [decode, decodeOption, if_neg (by simp [hnull]), Outcome.map_eq_done_iff]
    simp [eq_comm]
  · have hnew : ∀ content, v ≠ .set content := fun content hv => hset ⟨content, hv⟩
    have hstart : v.contentOr item.start = item.start := by
      cases v with
      | set content => exact absurd rfl (hnew content)
      | _ => rfl
    rw [decode, decodeOption_new_eq_done_iff hnew hnull, hstart]
    simp [build_eq_ok_iff hnull, eq_comm]

theorem decode_record_key_iff {fields : Fields} {key : String} :
    (Shape.record fields).decode v (.mapping [(.string key, d)]) path = .done w ↔
      ∃ i f u u', fields.select? key = some i ∧ fields.flatten[i]? = some f ∧
        v.fields[i]? = some u ∧ f.shape.decode u d (joinPath path key) = .done u' ∧
        w = .record (v.fields.set i u') := by
  rw [decode, decodeRecord_mapping, Outcome.each_singleton, Outcome.map_eq_done_iff]
  simp only [recordStep_eq_done_iff]
  constructor
  · rintro ⟨ws, ⟨key', hkey, r, u', hu', rfl⟩, rfl⟩
    obtain rfl : key = key' := Except.ok.inj hkey
    exact ⟨_, r.field, r.value, u', r.select?_eq, r.getElem?_flatten, r.getElem?_values, hu',
      by rw [r.put_eq_set]⟩
  · rintro ⟨i, f, u, u', hi, hf, hu, hu', rfl⟩
    obtain ⟨r, rfl, rfl, rfl⟩ := Fields.exists_found_of_select? hi hf hu
    exact ⟨_, ⟨key, rfl, r, u', hu', rfl⟩, by rw [r.put_eq_set]⟩

theorem decode_sequence_key_iff {key : String} :
    (Shape.sequence item).decode v (.mapping [(.string key, d)]) path = .done w ↔
      ∃ i u, index? key = some i ∧
        (i < v.elements.length ∨ i - v.elements.length ≤ maxGrowth ∧ i + 1 < 2 ^ 64) ∧
        item.decode (v.elements.getD i item.start) d (joinPath path key) = .done u ∧
        w = .items (putElement item.start v.elements i u) := by
  rw [decode, decodeSequence_mapping, Outcome.each_singleton, Outcome.map_eq_done_iff]
  simp only [indexStep_eq_done_iff, decodeElement_eq_done_iff, grow?_eq_some_iff]
  constructor
  · rintro ⟨ws, ⟨key', i, hkey, hi, grown, ⟨hgrow, rfl⟩, u, hu, rfl⟩, rfl⟩
    obtain rfl : key = key' := Except.ok.inj hkey
    rw [getD_grown] at hu
    exact ⟨i, u, (index?_eq_some_iff _).2 hi, hgrow, hu, rfl⟩
  · rintro ⟨i, u, hi, hgrow, hu, rfl⟩
    rw [← getD_grown (i := i)] at hu
    exact ⟨_, ⟨key, i, rfl, (index?_eq_some_iff _).1 hi, _, ⟨hgrow, rfl⟩, u, hu, rfl⟩, rfl⟩

/-- Decoding the document of an override writes its content. -/
theorem writes_of_decode (hascii : shape.AsciiNames)
    (h : shape.decode v (.nested (ss.map Text.lowercase) (.string content)) path = .done w) :
    shape.Writes content ss v w := by
  induction shape using Shape.induction generalizing ss v w path with
  | leaf kind =>
    cases ss with
    | nil => exact .here ((Shape.ignoresPath _).1 _ _ _ "" _ h)
    | cons s ss => exact absurd h decodeLeaf_mapping_ne_done
  | option item ih =>
    cases ss with
    | nil => exact .here ((Shape.ignoresPath _).1 _ _ _ "" _ h)
    | cons s ss =>
      obtain ⟨u, hu, rfl⟩ := (decode_option_eq_done_iff rfl).1 h
      exact .option (ih (fun fields hf => hascii fields (.option hf)) hu)
  | sequence item ih =>
    cases ss with
    | nil => exact .here ((Shape.ignoresPath _).1 _ _ _ "" _ h)
    | cons s ss =>
      obtain ⟨i, u, hi, -, hu, rfl⟩ := decode_sequence_key_iff.1 h
      rw [index?_lowercase] at hi
      exact .element hi (ih (fun fields hf => hascii fields (.sequence hf)) hu)
  | record fields ih =>
    cases ss with
    | nil => exact .here ((Shape.ignoresPath _).1 _ _ _ "" _ h)
    | cons s ss =>
      obtain ⟨i, f, u, u', hi, hf, hu, hu', rfl⟩ := decode_record_key_iff.1 h
      rw [Fields.select?_lowercase (hascii fields .refl)] at hi
      have hmem := List.mem_of_getElem? hf
      exact .field hi hf hu
        (ih f hmem (fun inner hinner => hascii inner (.record hmem hinner)) hu')

/-- A content can be decoded as an override where it can be written, if no index is too large. -/
theorem decode_of_writes (hascii : shape.AsciiNames)
    (hindexes : ∀ i, shape.ReadsIndex i ss → i ≤ maxGrowth) (h : shape.Writes content ss v w)
    (path : String) :
    shape.decode v (.nested (ss.map Text.lowercase) (.string content)) path = .done w := by
  induction h generalizing path with
  | here h => exact (Shape.ignoresPath _).1 _ _ _ _ _ h
  | field hs hf hu h ih =>
    have hmem := List.mem_of_getElem? hf
    have hpart := ih (fun inner hinner => hascii inner (.record hmem hinner))
      fun i hi => hindexes i (.field hs hf hi)
    rw [← Fields.select?_lowercase (hascii _ .refl)] at hs
    exact decode_record_key_iff.2 ⟨_, _, _, _, hs, hf, hu, hpart _, rfl⟩
  | element hs h ih =>
    have hpart := ih (fun fields hf => hascii fields (.sequence hf))
      fun i hi => hindexes i (.element hs hi)
    have hbound := hindexes _ (.here hs)
    rw [← index?_lowercase] at hs
    have hgrow : maxGrowth = 1024 := rfl
    exact decode_sequence_key_iff.2 ⟨_, _, hs, .inr (by omega), hpart _, rfl⟩
  | option h ih =>
    have hpart := ih (fun fields hf => hascii fields (.option hf)) fun i hi =>
      hindexes i (.option hi)
    exact (decode_option_eq_done_iff rfl).2 ⟨_, hpart _, rfl⟩

end Shape

end LayeredConfig.Schema
