import LayeredConfig.Proofs.Schema.Typing

namespace LayeredConfig.Schema

mutual

/-- A document cut at the place where decoding it onto a value of a type fails. On the way there,
what comes before the failing entry is kept and what comes after it is not. -/
inductive Shape.Cut : Shape → Value → Document → String → Document → Prop
  | content {item : Shape} {content : Value} {d d' : Document} {path : String}
      (h : Shape.Cut item content d path d') :
      Shape.Cut (.option item) (.set content) d path d'
  | record {fields : Fields} {v : Value} {path : String} {before after : List (Document × Document)}
      {e : Document × Document} {ws : List Value} {kept : List (Document × Document)}
      (hbefore : Outcome.each (recordStep fields.decoders path) v.fields before = .done ws)
      (hfails : (recordStep fields.decoders path ws e).error.isSome)
      (hkept : Fields.CutEntry fields ws path e kept) :
      Shape.Cut (.record fields) v (.mapping (before ++ e :: after)) path
        (.mapping (before ++ kept))
  | items {item : Shape} {v : Value} {path : String} {before after : List Document} {d : Document}
      {ws : List Value} {kept : List Document}
      (hbefore : Outcome.each (itemStep item.start item.decode path) v.elements before.zipIdx =
        .done ws)
      (hfails : (itemStep item.start item.decode path ws (d, before.length)).error.isSome)
      (hkept : Shape.CutElement item ws before.length d (joinPath path (toString before.length))
        kept) :
      Shape.Cut (.sequence item) v (.sequence (before ++ d :: after)) path
        (.sequence (before ++ kept))
  | indexed {item : Shape} {v : Value} {path : String} {before after : List (Document × Document)}
      {e : Document × Document} {ws : List Value} {kept : List (Document × Document)}
      (hbefore : Outcome.each (indexStep item.start item.decode path) v.elements before = .done ws)
      (hfails : (indexStep item.start item.decode path ws e).error.isSome)
      (hkept : Shape.CutIndex item ws path e kept) :
      Shape.Cut (.sequence item) v (.mapping (before ++ e :: after)) path
        (.mapping (before ++ kept))

inductive Fields.CutEntry : Fields → List Value → String → Document × Document →
    List (Document × Document) → Prop
  | dropped {fields : Fields} {ws : List Value} {path : String} {e : Document × Document} :
      Fields.CutEntry fields ws path e []
  | cut {fields : Fields} {ws : List Value} {path key : String} {e : Document × Document}
      {d' : Document} (hkey : keyText e.1 path = .ok key)
      (r : fields.Found ws (normalizeKey key))
      (h : Shape.Cut r.field.shape r.value e.2 (joinPath path key) d') :
      Fields.CutEntry fields ws path e [(e.1, d')]

/-- What is kept of the item that fails on the element with an index. Null stands for an item whose
element was not there before. -/
inductive Shape.CutElement : Shape → List Value → ℕ → Document → String → List Document → Prop
  | dropped {item : Shape} {ws : List Value} {index : ℕ} {d : Document} {path : String} :
      Shape.CutElement item ws index d path []
  | null {item : Shape} {ws grown : List Value} {index : ℕ} {d : Document} {path : String}
      (hnew : ws.length ≤ index) (hgrow : grow? item.start ws index = some grown) :
      Shape.CutElement item ws index d path [.null]
  | cut {item : Shape} {ws grown : List Value} {index : ℕ} {d d' : Document} {path : String}
      (hgrow : grow? item.start ws index = some grown)
      (h : Shape.Cut item (grown.getD index item.start) d path d') :
      Shape.CutElement item ws index d path [d']

inductive Shape.CutIndex : Shape → List Value → String → Document × Document →
    List (Document × Document) → Prop
  | dropped {item : Shape} {ws : List Value} {path : String} {e : Document × Document} :
      Shape.CutIndex item ws path e []
  | element {item : Shape} {ws : List Value} {path key : String} {index : ℕ}
      {e : Document × Document} {kept : List Document} (hkey : keyText e.1 path = .ok key)
      (hindex : sequenceIndex key (joinPath path key) = .ok index)
      (h : Shape.CutElement item ws index e.2 (joinPath path key) kept) :
      Shape.CutIndex item ws path e (kept.map fun d => (e.1, d))

end

/-- What is cut is a mapping or a sequence. -/
theorem Shape.Cut.isNull_eq_false {shape : Shape} {v : Value} {d d' : Document} {path : String} :
    shape.Cut v d path d' → d'.isNull = false
  | .content h => h.isNull_eq_false
  | .record _ _ _ => rfl
  | .items _ _ _ => rfl
  | .indexed _ _ _ => rfl

/-! ### Failing entries -/

/-- Null leaves the start value of a type as it is. -/
theorem Shape.decode_null (shape : Shape) (path : String) :
    shape.decode shape.start .null path = .done shape.start := by
  cases shape with
  | leaf kind => cases kind <;> rfl
  | option item => rfl
  | sequence item => rfl
  | record fields => rfl

/-- What a failed decoding leaves is the value itself, or what decoding a cut document leaves. -/
def Shape.CutsShort (shape : Shape) : Prop :=
  ∀ ⦃v d path v' e⦄, shape.decode v d path = .failed v' e →
    v' = v ∨ ∃ d', shape.Cut v d path d' ∧ shape.decode v d' path = .done v'

theorem Leaf.untouched_of_failed {kind : Leaf} {v v' : Value} {d : Document} {path : String}
    {e : DecodeError} (h : decodeLeaf kind v d path = .failed v' e) : v' = v := by
  unfold decodeLeaf at h
  split at h
  · exact absurd h.symm Outcome.failed_ne_done
  · split at h
    · exact absurd h.symm Outcome.failed_ne_done
    · exact (Outcome.eq_failed_iff.1 h).2.symm

theorem decodeOption_new_untouched {decode : Decoder} {build : Builder} {v v' : Value}
    (hv : ∀ content, v ≠ .set content) {d : Document} {path : String} {e : DecodeError}
    (h : decodeOption decode build v d path = .failed v' e) : v' = v := by
  unfold decodeOption at h
  split at h
  · exact absurd h.symm Outcome.failed_ne_done
  · split at h
    · next content => exact absurd rfl (hv content)
    · split at h
      · exact absurd h.symm Outcome.failed_ne_done
      · exact (Outcome.eq_failed_iff.1 h).2.symm

theorem decodeSequence_scalar_untouched {start : Value} {decode : Decoder} {v v' : Value}
    {d : Document} {path : String} {e : DecodeError} (hmapping : ∀ entries, d ≠ .mapping entries)
    (hsequence : ∀ ds, d ≠ .sequence ds)
    (h : decodeSequence start decode v d path = .failed v' e) : v' = v := by
  have hlone (h : loneElement start decode v d path = .failed v' e) : v' = v := by
    unfold loneElement at h
    split at h
    · exact absurd h.symm Outcome.failed_ne_done
    · exact (Outcome.eq_failed_iff.1 h).2.symm
  cases d with
  | mapping entries => exact absurd rfl (hmapping entries)
  | sequence ds => exact absurd rfl (hsequence ds)
  | null => exact absurd h.symm Outcome.failed_ne_done
  | string s =>
    dsimp only [decodeSequence] at h
    split at h
    · exact absurd h.symm Outcome.failed_ne_done
    · exact (Outcome.eq_failed_iff.1 h).2.symm
  | bool b => exact hlone h
  | number n => exact hlone h
  | tagged tag content => exact hlone h

/-- An entry that fails on a record can be cut to one that leaves the same. -/
theorem Fields.exists_cutEntry {fields : Fields} (ih : ∀ f ∈ fields.flatten, f.shape.CutsShort)
    {vs ws : List Value} {path : String} {entry : Document × Document} {e : DecodeError}
    (h : recordStep fields.decoders path vs entry = .failed ws e) :
    ∃ kept, Fields.CutEntry fields vs path entry kept ∧
      Outcome.each (recordStep fields.decoders path) vs kept = .done ws := by
  rcases recordStep_cases fields path vs entry with ⟨error, he⟩ | ⟨key, hkey, r, hr⟩
  · rw [he, Outcome.failed_inj] at h
    exact ⟨[], .dropped, by rw [h.1]; rfl⟩
  · rw [hr, Outcome.map_eq_failed_iff] at h
    obtain ⟨w, hw, rfl⟩ := h
    rcases ih r.field r.field_mem hw with rfl | ⟨d', hcut, hd'⟩
    · exact ⟨[], .dropped, by simp⟩
    · refine ⟨[(entry.1, d')], .cut hkey r hcut, ?_⟩
      have hstep := recordStep_found (e := (entry.1, d')) hkey r
      rw [Outcome.each_singleton, hstep, hd', Outcome.map_done]

/-- An item that fails on an element can be cut to one that leaves the same. -/
theorem Shape.exists_cutElement {item : Shape} (ih : item.CutsShort) {vs ws : List Value}
    {index : ℕ} {d : Document} {path : String} {e : DecodeError}
    (h : decodeElement item.start item.decode vs index d path = .failed ws e) :
    ∃ kept, Shape.CutElement item vs index d path kept ∧
      Outcome.each (fun vs d => decodeElement item.start item.decode vs index d path) vs kept =
        .done ws := by
  cases hgrow : grow? item.start vs index with
  | none =>
    rw [decodeElement, hgrow, Outcome.failed_inj] at h
    exact ⟨[], .dropped, by rw [h.1]; rfl⟩
  | some grown =>
    rw [decodeElement_of_grow? hgrow, Outcome.map_eq_failed_iff] at h
    obtain ⟨w, hw, rfl⟩ := h
    have hindex := lt_length_of_grow? hgrow
    have hset : grown.set index (grown.getD index item.start) = grown := by
      rw [List.getD_eq_getElem _ _ hindex, List.set_getElem_self]
    rcases ih hw with rfl | ⟨d', hcut, hd'⟩
    · rw [hset]
      by_cases hnew : index < vs.length
      · obtain rfl := Option.some.inj ((grow?_of_lt hnew).symm.trans hgrow)
        exact ⟨[], .dropped, rfl⟩
      · -- The element was not there before, so it holds the start value that null leaves.
        have hstart : grown.getD index item.start = item.start := by
          obtain ⟨-, rfl⟩ := grow?_eq_some_iff.1 hgrow
          rw [List.getD_append_right _ _ _ _ (not_lt.1 hnew), List.getD_replicate _ (by omega)]
        refine ⟨[.null], .null (not_lt.1 hnew) hgrow, ?_⟩
        rw [Outcome.each_singleton, decodeElement_of_grow? hgrow, hstart, item.decode_null,
          Outcome.map_done, ← hstart, hset]
    · refine ⟨[d'], .cut hgrow hcut, ?_⟩
      rw [Outcome.each_singleton, decodeElement_of_grow? hgrow, hd', Outcome.map_done]

/-- An entry that fails on a sequence can be cut to one that leaves the same. -/
theorem Shape.exists_cutIndex {item : Shape} (ih : item.CutsShort) {vs ws : List Value}
    {path : String} {entry : Document × Document} {e : DecodeError}
    (h : indexStep item.start item.decode path vs entry = .failed ws e) :
    ∃ kept, Shape.CutIndex item vs path entry kept ∧
      Outcome.each (indexStep item.start item.decode path) vs kept = .done ws := by
  rcases indexStep_cases item.start item.decode path vs entry with
    ⟨error, he⟩ | ⟨key, index, hkey, hindex, he⟩
  · rw [he, Outcome.failed_inj] at h
    exact ⟨[], .dropped, by rw [h.1]; rfl⟩
  · rw [he] at h
    obtain ⟨kept, hcut, hkept⟩ := Shape.exists_cutElement ih h
    have hstep (vs : List Value) (d : Document) :
        indexStep item.start item.decode path vs (entry.1, d) =
          decodeElement item.start item.decode vs index d (joinPath path key) := by
      simp [indexStep, hkey, hindex]
    refine ⟨_, .element hkey hindex hcut, ?_⟩
    rw [Outcome.each_map]
    simpa only [hstep] using hkept

/-- Of an item at most one is kept, at its position. -/
theorem Shape.CutElement.each_zipIdx {item : Shape} {vs : List Value} {index : ℕ} {d : Document}
    {path : String} {kept : List Document}
    (h : Shape.CutElement item vs index d (joinPath path (toString index)) kept) :
    Outcome.each (itemStep item.start item.decode path) vs (kept.zipIdx index) =
      Outcome.each (fun vs d => decodeElement item.start item.decode vs index d
        (joinPath path (toString index))) vs kept := by
  cases h <;> rfl

/-! ### Failing documents -/

theorem Shape.cutsShort_option {item : Shape} (ih : item.CutsShort) :
    (Shape.option item).CutsShort := by
  intro v d path v' e h
  by_cases hv : ∃ content, v = .set content
  · obtain ⟨content, rfl⟩ := hv
    have hnull : d.isNull = false := by
      by_contra hnull
      rw [Shape.decode, decodeOption, if_pos (by simpa using hnull)] at h
      exact Outcome.failed_ne_done h.symm
    rw [Shape.decode, decodeOption, if_neg (by simp [hnull]), Outcome.map_eq_failed_iff] at h
    obtain ⟨w, hw, rfl⟩ := h
    rcases ih hw with rfl | ⟨d', hcut, hd'⟩
    · exact .inl rfl
    · -- What is cut is not null, so it is merged onto the content as well.
      refine .inr ⟨d', .content hcut, ?_⟩
      simp [Shape.decode, decodeOption, hcut.isNull_eq_false, hd']
  · exact .inl (decodeOption_new_untouched (fun content hc => hv ⟨content, hc⟩) h)

theorem Shape.cutsShort_sequence {item : Shape} (ih : item.CutsShort) :
    (Shape.sequence item).CutsShort := by
  intro v d path v' e h
  cases d with
  | sequence ds =>
    rw [Shape.decode, decodeSequence_sequence, Outcome.map_eq_failed_iff] at h
    obtain ⟨us, hus, rfl⟩ := h
    obtain ⟨numbered, ⟨d, index⟩, rest, ws, hds, hbefore, hd⟩ := Outcome.each_eq_failed_iff.1 hus
    obtain ⟨before, tail, rfl, rfl, htail⟩ := List.zipIdx_eq_append_iff.1 hds
    obtain ⟨d, after, rfl, hitem, -⟩ := List.zipIdx_eq_cons_iff.1 htail.symm
    obtain ⟨rfl, rfl⟩ := Prod.mk.inj hitem
    rw [Nat.zero_add] at hd
    obtain ⟨kept, hcut, hkept⟩ := Shape.exists_cutElement ih hd
    refine .inr ⟨_, .items hbefore (by simp [hd]) hcut, ?_⟩
    rw [Shape.decode, decodeSequence_sequence, List.zipIdx_append, Nat.zero_add,
      Outcome.each_append, hbefore, Outcome.done_andThen, hcut.each_zipIdx, hkept, Outcome.map_done]
  | mapping entries =>
    rw [Shape.decode, decodeSequence_mapping, Outcome.map_eq_failed_iff] at h
    obtain ⟨us, hus, rfl⟩ := h
    obtain ⟨before, entry, after, ws, rfl, hbefore, hentry⟩ := Outcome.each_eq_failed_iff.1 hus
    obtain ⟨kept, hcut, hkept⟩ := Shape.exists_cutIndex ih hentry
    refine .inr ⟨_, .indexed hbefore (by simp [hentry]) hcut, ?_⟩
    rw [Shape.decode, decodeSequence_mapping, Outcome.each_append, hbefore,
      Outcome.done_andThen, hkept, Outcome.map_done]
  | _ => exact .inl (decodeSequence_scalar_untouched (by simp) (by simp) h)

theorem Shape.cutsShort_record {fields : Fields}
    (ih : ∀ f ∈ fields.flatten, f.shape.CutsShort) : (Shape.record fields).CutsShort := by
  intro v d path v' e h
  cases d with
  | mapping entries =>
    rw [Shape.decode, decodeRecord_mapping, Outcome.map_eq_failed_iff] at h
    obtain ⟨us, hus, rfl⟩ := h
    obtain ⟨before, entry, after, ws, rfl, hbefore, hentry⟩ := Outcome.each_eq_failed_iff.1 hus
    obtain ⟨kept, hcut, hkept⟩ := Fields.exists_cutEntry ih hentry
    refine .inr ⟨_, .record hbefore (by simp [hentry]) hcut, ?_⟩
    rw [Shape.decode, decodeRecord_mapping, Outcome.each_append, hbefore,
      Outcome.done_andThen, hkept, Outcome.map_done]
  | null => exact absurd h.symm Outcome.failed_ne_done
  | _ => exact .inl (Outcome.eq_failed_iff.1 h).2.symm

theorem Shape.cutsShort (shape : Shape) : shape.CutsShort := by
  induction shape using Shape.induction with
  | leaf kind => exact fun _ _ _ _ _ h => .inl (Leaf.untouched_of_failed h)
  | option item ih => exact Shape.cutsShort_option ih
  | sequence item ih => exact Shape.cutsShort_sequence ih
  | record fields ih => exact Shape.cutsShort_record ih

/-- A failed decoding leaves what it was given, or what decoding the document leaves that is cut at
the place of the failure. A leaf, a sequence that is given a scalar and an option without content
are left as they were. -/
theorem Shape.decode_failed_cut {shape : Shape} {v v' : Value} {d : Document} {path : String}
    {e : DecodeError} (h : shape.decode v d path = .failed v' e) :
    (v' = v ∨ ∃ d', shape.Cut v d path d' ∧ shape.decode v d' path = .done v') ∧
      (∀ kind, shape = .leaf kind → v' = v) ∧
      (∀ item, shape = .sequence item → (∀ entries, d ≠ .mapping entries) →
        (∀ ds, d ≠ .sequence ds) → v' = v) ∧
      (∀ item, shape = .option item → (∀ content, v ≠ .set content) → v' = v) := by
  refine ⟨shape.cutsShort h, ?_, ?_, ?_⟩
  · rintro kind rfl
    exact Leaf.untouched_of_failed h
  · rintro item rfl hmapping hsequence
    exact decodeSequence_scalar_untouched hmapping hsequence h
  · rintro item rfl hv
    exact decodeOption_new_untouched hv h

/-- An index that grows a sequence by two elements, of which the new one takes an entry before the
next entry fails. -/
theorem Shape.decode_failed_cut_modules :
    let module : Shape := .record (.plain "name" (.leaf .string) (.scalar (.text "main")) <|
      .plain "gauge" (.option (.leaf (.integer .u8))) .unset .nil)
    let shape : Shape := .record (.plain "host" (.leaf .string) (.scalar (.text "")) <|
      .plain "modules" (.sequence module) (.items []) .nil)
    let d : Document := .mapping [
      (.string "Host", .string "here"),
      (.string "modules", .mapping [(.string "1", .mapping
        [(.string "name", .string "flows"), (.string "gauge", .number (.integer 256))])]),
      (.string "host", .string "there")]
    let left : Value := .record [.scalar (.text "here"), .items [
      .record [.scalar (.text "main"), .unset], .record [.scalar (.text "flows"), .unset]]]
    shape.decode shape.start d "" =
        .failed left (.coercion "modules.1.gauge" (.outOfRange 256 .u8)) ∧
      ∃ d', shape.Cut shape.start d "" d' ∧ shape.decode shape.start d' "" = .done left := by
  intro module shape d left
  have h : shape.decode shape.start d "" =
      .failed left (.coercion "modules.1.gauge" (.outOfRange 256 .u8)) := by rfl
  rcases (Shape.decode_failed_cut h).1 with hleft | hcut
  · exact absurd hleft (by simp [left, shape, Shape.start, Fields.flatten])
  · exact ⟨h, hcut⟩

end LayeredConfig.Schema
