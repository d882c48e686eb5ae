import LayeredConfig.Proofs.Schema.Address
import LayeredConfig.Proofs.Schema.Entry

namespace LayeredConfig.Schema

/-! ### Addressed parts -/

/-- A document addresses the part of a value at the end of some turns: keys, positions and indexes
lead there. A scalar that replaces a sequence and a null that unsets an option address all that is
below; any other null addresses nothing. -/
inductive Shape.Addresses : Shape → Document → List Turn → Prop
  | here {shape : Shape} {d : Document} (hd : d ≠ .null) : Addresses shape d []
  | field {fields : Fields} {entries : List (Document × Document)} {e : Document × Document}
      {i : ℕ} {f : Field} {turns : List Turn} (he : e ∈ entries) (hi : fields.place? e.1 = some i)
      (hf : fields.flatten[i]? = some f) (h : Addresses f.shape e.2 turns) :
      Addresses (.record fields) (.mapping entries) (.field i :: turns)
  | item {item : Shape} {ds : List Document} {d : Document} {i : ℕ} {turns : List Turn}
      (hd : ds[i]? = some d) (h : Addresses item d turns) :
      Addresses (.sequence item) (.sequence ds) (.element i :: turns)
  | indexed {item : Shape} {entries : List (Document × Document)} {e : Document × Document} {i : ℕ}
      {turns : List Turn} (he : e ∈ entries) (hi : elementIndex? e.1 = some i)
      (h : Addresses item e.2 turns) :
      Addresses (.sequence item) (.mapping entries) (.element i :: turns)
  | parts {item : Shape} {s : String} {turns : List Turn} :
      Addresses (.sequence item) (.string s) turns
  | lone {item : Shape} {d : Document} {turns : List Turn} (hd : d.standsAlone = true) :
      Addresses (.sequence item) d turns
  | unset {item : Shape} {d : Document} {turns : List Turn} (hnull : d.isNull = true) :
      Addresses (.option item) d turns
  | content {item : Shape} {d : Document} {turns : List Turn} (h : Addresses item d turns) :
      Addresses (.option item) d (.content :: turns)

inductive Shape.Admits : Shape → List Turn → Prop
  | here {shape : Shape} : Admits shape []
  | field {fields : Fields} {i : ℕ} {f : Field} {turns : List Turn}
      (hf : fields.flatten[i]? = some f) (h : Admits f.shape turns) :
      Admits (.record fields) (.field i :: turns)
  | element {item : Shape} {i : ℕ} {turns : List Turn} (h : Admits item turns) :
      Admits (.sequence item) (.element i :: turns)
  | content {item : Shape} {turns : List Turn} (h : Admits item turns) :
      Admits (.option item) (.content :: turns)

variable {shape item : Shape} {fields : Fields} {start v u : Value} {decode : Decoder}
  {vs : List Value} {turns : List Turn} {d : Document} {path : String} {i : ℕ}

theorem Shape.admits_of_at? (hv : shape.Holds v) (hu : v.at? turns = some u) :
    shape.Admits turns := by
  induction turns generalizing shape v with
  | nil => exact .here
  | cons turn turns ih =>
    obtain ⟨w, hw, hrest⟩ := Option.bind_eq_some_iff.1 hu
    cases hv with
    | scalar h => cases turn <;> cases hw
    | unset => cases turn <;> cases hw
    | set h =>
      cases turn with
      | content =>
        obtain rfl := Option.some.inj hw
        exact .content (ih h hrest)
      | _ => cases hw
    | items hlength h =>
      cases turn with
      | element i => exact .element (ih (h w (List.mem_of_getElem? hw)) hrest)
      | _ => cases hw
    | record h =>
      cases turn with
      | field i =>
        obtain ⟨hlt, rfl⟩ := List.getElem?_eq_some_iff.1 hw
        have hlt' := h.length_eq ▸ hlt
        exact .field (List.getElem?_eq_getElem hlt') (ih (h.get hlt' hlt) hrest)
      | _ => cases hw

/-! ### Steps -/

def partAt (vs : List Value) (i : ℕ) (turns : List Turn) : Option Value :=
  vs[i]?.bind fun v => v.at? turns

theorem partAt_decodeElement {j : ℕ} (hsame : j = i → ∀ v, vs[i]? = some v →
      v.at? turns = some u → (decode v d path).value.at? turns = some u)
    (hu : partAt vs i turns = some u) :
    partAt (decodeElement start decode vs j d path).value i turns = some u := by
  by_cases hreach : Reachable vs.length j
  · obtain ⟨w, hw, hrest⟩ := Option.bind_eq_some_iff.1 hu
    rw [decodeElement_of_reachable hreach, Outcome.value_map, partAt]
    by_cases hij : j = i
    · subst hij
      rw [getElem?_putElement_self, Option.bind_some, List.getD_eq_getElem?_getD, hw,
        Option.getD_some]
      exact hsame rfl w hw hrest
    · rw [getElem?_putElement_of_ne hij hw, Option.bind_some, hrest]
  · rwa [decodeElement_of_not_reachable hreach]

theorem partAt_indexStep {e : Document × Document}
    (hsame : elementIndex? e.1 = some i → ∀ v path, vs[i]? = some v →
      v.at? turns = some u → (decode v e.2 path).value.at? turns = some u)
    (hu : partAt vs i turns = some u) :
    partAt (indexStep start decode path vs e).value i turns = some u := by
  cases hj : elementIndex? e.1 with
  | none =>
    obtain ⟨error, hfails⟩ := indexStep_of_no_index hj start decode path
    rwa [hfails]
  | some j =>
    rw [indexStep_of_index? hj]
    exact partAt_decodeElement (fun hij v => hsame (hij ▸ hj) v _) hu

theorem partAt_recordStep {e : Document × Document}
    (hsame : ∀ f, fields.place? e.1 = some i → fields.flatten[i]? = some f →
      ∀ v path, vs[i]? = some v → v.at? turns = some u →
        (f.shape.decode v e.2 path).value.at? turns = some u)
    (hu : partAt vs i turns = some u) :
    partAt (recordStep fields.decoders path vs e).value i turns = some u := by
  rcases recordStep_place_cases fields path vs e with
    ⟨error, hfails⟩ | ⟨j, f, w, hj, hf, hw, hdecode⟩
  · rwa [hfails]
  · rw [hdecode, Outcome.value_map, partAt]
    by_cases hij : j = i
    · subst hij
      obtain ⟨hlt, -⟩ := List.getElem?_eq_some_iff.1 hw
      rw [partAt, hw, Option.bind_some] at hu
      rw [List.getElem?_set_self hlt, Option.bind_some]
      exact hsame f hj hf w _ hw hu
    · rwa [List.getElem?_set_ne hij]

/-! ### Decoding -/

theorem Shape.decode_null_of_ne_option (hshape : ∀ item, shape ≠ .option item) (v : Value)
    (path : String) : shape.decode v .null path = .done v := by
  cases shape with
  | leaf kind =>
    have hkeeps : kind.keeps .null = true := by cases kind <;> rfl
    rw [decode, decodeLeaf, if_pos hkeeps]
  | option item => exact absurd rfl (hshape item)
  | sequence item => rfl
  | record fields => rfl

/-- A part that is not addressed stays. -/
theorem Shape.Admits.at?_decode (hturns : shape.Admits turns) (hnot : ¬shape.Addresses d turns)
    (hu : v.at? turns = some u) : (shape.decode v d path).value.at? turns = some u := by
  -- The steps onto a record or a sequence keep the part below the first turn, one by one: what an
  -- entry is decoded onto lies at another first turn, or the entry does not address what is below.
  induction hturns generalizing v d path with
  | @here shape =>
    obtain rfl : d = .null := by
      by_contra hd
      exact hnot (.here hd)
    have hshape : ∀ item, shape ≠ .option item := by
      rintro item rfl
      exact hnot (.unset rfl)
    rwa [decode_null_of_ne_option hshape, Outcome.value_done]
  | @field fields i f turns hf h ih =>
    cases v with
    | record vs =>
      cases d with
      | mapping entries =>
        rw [decode, decodeRecord_mapping, Outcome.value_map]
        refine Outcome.each_keeps (I := fun ws => partAt ws i turns = some u) hu
          fun ws e he hws => ?_
        refine partAt_recordStep (fun g hi hg w q _ => ?_) hws
        obtain rfl := Option.some.inj (hf.symm.trans hg)
        exact ih fun haddr => hnot (.field he hi hf haddr)
      | _ => exact hu
    | _ => cases hu
  | @element item i turns h ih =>
    cases v with
    | items vs =>
      cases d with
      | null => exact hu
      | sequence ds =>
        rw [decode, decodeSequence_sequence, Outcome.value_map]
        refine Outcome.each_keeps (I := fun ws => partAt ws i turns = some u) hu
          fun ws e he hws => partAt_decodeElement (fun hij w _ => ?_) hws
        have hd : ds[i]? = some e.1 := hij ▸ List.mem_zipIdx_iff_getElem?.1 he
        exact ih fun haddr => hnot (.item hd haddr)
      | mapping entries =>
        rw [decode, decodeSequence_mapping, Outcome.value_map]
        refine Outcome.each_keeps (I := fun ws => partAt ws i turns = some u) hu
          fun ws e he hws => partAt_indexStep (fun hi w q _ => ?_) hws
        exact ih fun haddr => hnot (.indexed he hi haddr)
      | string s => exact absurd .parts hnot
      | _ => exact absurd (.lone rfl) hnot
    | _ => cases hu
  | @content item turns h ih =>
    cases v with
    | set content =>
      have hnull : ¬d.isNull = true := fun hnull => hnot (.unset hnull)
      rw [decode, decodeOption, if_neg hnull]
      exact ih (fun haddr => hnot (.content haddr)) hu
    | _ => cases hu

theorem Shape.length_le_decode_sequence (ds : List Document) (v : Value) (path : String) :
    v.elements.length ≤
      ((Shape.sequence item).decode v (.sequence ds) path).value.elements.length := by
  rw [decode, decodeSequence_sequence, Outcome.value_map, Value.elements_items]
  exact Outcome.each_keeps (I := fun ws : List Value => v.elements.length ≤ ws.length) le_rfl
    fun ws e _ hws => hws.trans length_le_decodeElement

theorem Shape.length_le_decode_mapping (entries : List (Document × Document)) (v : Value)
    (path : String) : v.elements.length ≤
      ((Shape.sequence item).decode v (.mapping entries) path).value.elements.length := by
  rw [decode, decodeSequence_mapping, Outcome.value_map, Value.elements_items]
  refine Outcome.each_keeps (I := fun ws : List Value => v.elements.length ≤ ws.length) le_rfl
    fun ws e _ hws => hws.trans ?_
  cases hi : elementIndex? e.1 with
  | none =>
    obtain ⟨error, hfails⟩ := indexStep_of_no_index hi item.start item.decode path
    rw [hfails, Outcome.value_failed]
  | some i =>
    rw [indexStep_of_index? hi]
    exact length_le_decodeElement

/-- Whether or not decoding succeeds, the parts of the value that the document does not address
stay. A sequence gets no shorter by a sequence or a mapping, and null changes only options. -/
theorem Shape.decode_frame (hv : shape.Holds v) (d : Document) (path : String) :
    (∀ turns u, v.at? turns = some u → ¬shape.Addresses d turns →
      (shape.decode v d path).value.at? turns = some u) ∧
    (∀ item, shape = .sequence item →
      ((∃ ds, d = .sequence ds) ∨ ∃ entries, d = .mapping entries) →
      v.elements.length ≤ (shape.decode v d path).value.elements.length) ∧
    (d = .null → (∀ item, shape ≠ .option item) → shape.decode v d path = .done v) := by
  refine ⟨fun turns u hu hnot => (admits_of_at? hv hu).at?_decode hnot hu, ?_, ?_⟩
  · rintro item rfl (⟨ds, rfl⟩ | ⟨entries, rfl⟩)
    · exact length_le_decode_sequence ds v path
    · exact length_le_decode_mapping entries v path
  · rintro rfl hshape
    exact decode_null_of_ne_option hshape v path

/-- Decoding stops at the second entry, and a field of the same element and another element stay. -/
theorem Shape.decode_frame_modules :
    let module : Shape := .record (.plain "name" (.leaf .string) (.scalar (.text "main")) <|
      .plain "gauge" (.option (.leaf (.integer .u8))) .unset .nil)
    let shape : Shape := .sequence module
    let first : Value := .record [.scalar (.text "first"), .unset]
    let second (gauge : Int) : Value :=
      .record [.scalar (.text "second"), .set (.scalar (.integer gauge))]
    let v : Value := .items [first, second 2]
    let d : Document := .mapping [
      (.string "1", .mapping [(.string "Gauge", .number (.integer 3)), (.string "none", .null)])]
    shape.Holds v ∧
      shape.decode v d "" = .failed (.items [first, second 3]) (.unknownKey "1.none") ∧
      (shape.decode v d "").value.at? [.element 0] = some first ∧
      (shape.decode v d "").value.at? [.element 1, .field 0] = some (.scalar (.text "second")) := by
  intro module shape first second v d
  have hv : shape.Holds v := by
    refine .items (by decide) ?_
    simp only [List.forall_mem_cons]
    refine ⟨.record (.cons (.scalar trivial) (.cons .unset .nil)), ?_, by simp⟩
    have hgauge : IntegerKind.Holds .u8 2 := by decide
    exact .record (.cons (.scalar trivial) (.cons (.set (.scalar hgauge)) .nil))
  have hframe := (Shape.decode_frame hv d "").1
  refine ⟨hv, by rfl, hframe _ _ rfl ?_, hframe _ _ rfl ?_⟩
  · intro h
    change Shape.Addresses (.sequence module) (.mapping _) _ at h
    cases h with
    | indexed he hi h =>
      rw [List.mem_singleton] at he
      subst he
      cases hi.symm.trans (rfl : _ = some 1)
    | lone hd => cases hd
  · intro h
    change Shape.Addresses (.sequence module) (.mapping _) _ at h
    cases h with
    | indexed he hi h =>
      rw [List.mem_singleton] at he
      subst he
      change Shape.Addresses (.record _) (.mapping _) _ at h
      cases h with
      | field he hi hf h =>
        rcases List.mem_pair.1 he with rfl | rfl
        · cases hi.symm.trans (rfl : _ = some 1)
        · cases hi.symm.trans (rfl : _ = none)
    | lone hd => cases hd

end LayeredConfig.Schema
