import LayeredConfig.Proofs.Schema.Entry

/-!
What decoding leaves where it succeeds, as a function of the value and the document alone: nothing
fails here and every sequence grows as far as it has to. A document that is merged makes up for
having been merged before, whatever was merged in between.
-/

namespace LayeredConfig

/-! ### Steps that overwrite -/

section Overwriting

variable {α β γ δ : Type}

/-- A step leaves the same as before when it is taken again, and an earlier one like it is not felt
after it. -/
structure Overwriting (step : α → β → α) : Prop where
  twice : ∀ a b, step (step a b) b = step a b
  between : ∀ a b c, step (step (step a b) c) b = step (step a c) b

namespace Overwriting

variable {step : α → β → α}

/-- So is a step that does nothing, leaves one thing whatever was there, or acts on a part. -/
theorem of_cases (h : Overwriting step) (get : γ → α) (put : α → γ)
    (hget : ∀ a, get (put a) = a) {outer : γ → δ → γ}
    (hcases : ∀ d, (∀ c, outer c d = c) ∨ (∃ c', ∀ c, outer c d = c') ∨
      ∃ b, ∀ c, outer c d = put (step (get c) b)) : Overwriting outer where
  twice c d := by
    rcases hcases d with hd | ⟨c', hd⟩ | ⟨b, hd⟩ <;> simp only [hd, hget, h.twice]
  between c d e := by
    rcases hcases d with hd | ⟨c', hd⟩ | ⟨b, hd⟩
    · simp only [hd]
    · simp only [hd]
    · -- Both act on the part, or what comes between either keeps it or makes all before it unfelt.
      rcases hcases e with he | ⟨c', he⟩ | ⟨b', he⟩ <;>
        simp only [hd, he, hget, h.twice, h.between]

/-- An earlier step is not felt after one like it, however many were taken between them. -/
theorem foldl_between (h : Overwriting step) (a : α) (b : β) (cs : List β) :
    step (cs.foldl step (step a b)) b = step (cs.foldl step a) b := by
  induction cs generalizing a with
  | nil => exact h.twice a b
  | cons c cs ih =>
    -- One more `b` right after `c` is not felt at the end, and it makes the first `b` needless.
    calc step (cs.foldl step (step (step a b) c)) b
        = step (cs.foldl step (step (step (step a b) c) b)) b := (ih _).symm
      _ = step (cs.foldl step (step (step a c) b)) b := by rw [h.between]
      _ = step (cs.foldl step (step a c)) b := ih _

/-- Steps that are taken later anyway are not felt. -/
theorem foldl_subset (h : Overwriting step) {bs cs : List β} (hsub : bs ⊆ cs) (a : α) :
    cs.foldl step (bs.foldl step a) = cs.foldl step a := by
  induction bs generalizing a with
  | nil => rfl
  | cons b bs ih =>
    obtain ⟨hb, hbs⟩ := List.cons_subset.1 hsub
    obtain ⟨before, after, rfl⟩ := List.append_of_mem hb
    rw [List.foldl_cons, ih hbs, List.foldl_append, List.foldl_append, List.foldl_cons,
      List.foldl_cons, h.foldl_between]

/-- Rows of such steps are such steps. -/
theorem foldl (h : Overwriting step) : Overwriting fun a (bs : List β) => bs.foldl step a where
  twice a bs := h.foldl_subset (List.Subset.refl bs) a
  between a bs cs := by
    have hsub : bs ⊆ cs ++ bs := List.subset_append_right cs bs
    simpa only [List.foldl_append] using h.foldl_subset hsub a

end Overwriting

end Overwriting

namespace Schema

/-! ### Edits of a sequence -/

inductive ElementEdit where
  | merge (index : ℕ) (d : Document)
  | replace (ds : List Document)

def elementEdits : Document → List ElementEdit
  | .null => []
  | .sequence ds => ds.zipIdx.map fun e => .merge e.2 e.1
  | .mapping entries => entries.filterMap fun e => (elementIndex? e.1).map fun i => .merge i e.2
  | .string s => [.replace ((commaParts s).map .string)]
  | d => [.replace [d]]

theorem elementEdits_of_standsAlone {d : Document} (h : d.standsAlone = true) :
    elementEdits d = [.replace [d]] :=
  match d, h with
  | .bool _, _ | .number _, _ | .tagged _ _, _ => rfl

def editElements (start : Value) (merge : Value → Document → Value) (vs : List Value) :
    ElementEdit → List Value
  | .merge i d => putElement start vs i (merge (vs.getD i start) d)
  | .replace ds => ds.map (merge start)

/-- Different elements can be merged onto in either order. -/
theorem editElements_comm {start : Value} {merge : Value → Document → Value} {i j : ℕ} (hij : i ≠ j)
    (d e : Document) (vs : List Value) :
    editElements start merge (editElements start merge vs (.merge i d)) (.merge j e) =
      editElements start merge (editElements start merge vs (.merge j e)) (.merge i d) := by
  simp only [editElements, getD_putElement, if_neg hij, if_neg (Ne.symm hij), putElement_comm hij]

theorem overwriting_editElements {merge : Value → Document → Value} (h : Overwriting merge)
    (start : Value) : Overwriting (editElements start merge) := by
  have htwice (vs : List Value) (edit : ElementEdit) :
      editElements start merge (editElements start merge vs edit) edit =
        editElements start merge vs edit := by
    cases edit with
    | merge i d => simp only [editElements, getD_putElement, if_pos, h.twice, putElement_putElement]
    | replace ds => rfl
  refine ⟨htwice, fun vs edit other => ?_⟩
  cases edit with
  | replace ds => rfl
  | merge i d =>
    cases other with
    | replace ds => rfl
    | merge j e =>
      by_cases hij : i = j
      · subst hij
        simp only [editElements, getD_putElement, if_pos, h.between, putElement_putElement]
      · rw [editElements_comm hij, htwice]

/-! ### Edits of a record -/

def mergeEntry (fields : Fields) (merges : List (Value → Document → Value)) (vs : List Value)
    (e : Document × Document) : List Value :=
  match fields.place? e.1 with
  | some i => vs.modify i fun v => merges.getD i (fun w _ => w) v e.2
  | none => vs

section Records

variable {fields : Fields} {merges : List (Value → Document → Value)} {vs : List Value}
  {a b : Document × Document} {i : ℕ}

theorem mergeEntry_of_place? (h : fields.place? a.1 = some i) : mergeEntry fields merges vs a =
    vs.modify i fun v => merges.getD i (fun w _ => w) v a.2 := by
  simp only [mergeEntry, h]

theorem mergeEntry_of_no_place (h : fields.place? a.1 = none) :
    mergeEntry fields merges vs a = vs := by
  simp only [mergeEntry, h]

/-- Entries at different places can be merged in either order. -/
theorem mergeEntry_comm (h : ∀ i, fields.place? a.1 = some i → fields.place? b.1 ≠ some i) :
    mergeEntry fields merges (mergeEntry fields merges vs a) b =
      mergeEntry fields merges (mergeEntry fields merges vs b) a := by
  cases ha : fields.place? a.1 with
  | none => simp only [mergeEntry_of_no_place ha]
  | some i =>
    cases hb : fields.place? b.1 with
    | none => simp only [mergeEntry_of_no_place hb]
    | some j =>
      have hij : i ≠ j := fun hij => h i ha (hij ▸ hb)
      simp only [mergeEntry_of_place? ha, mergeEntry_of_place? hb]
      exact List.modify_modify_ne _ _ _ hij

theorem overwriting_mergeEntry (h : ∀ merge ∈ merges, Overwriting merge) :
    Overwriting (mergeEntry fields merges) := by
  have hplace (i : ℕ) : Overwriting (merges.getD i fun w _ => w) := by
    by_cases hi : i < merges.length
    · rw [List.getD_eq_getElem _ _ hi]
      exact h _ (List.getElem_mem hi)
    · rw [List.getD_eq_default _ _ (Nat.not_lt.1 hi)]
      exact ⟨fun _ _ => rfl, fun _ _ _ => rfl⟩
  have htwice (vs : List Value) (a : Document × Document) :
      mergeEntry fields merges (mergeEntry fields merges vs a) a =
        mergeEntry fields merges vs a := by
    cases ha : fields.place? a.1 with
    | none => simp only [mergeEntry_of_no_place ha]
    | some i =>
      simp only [mergeEntry_of_place? ha, List.modify_modify_eq]
      exact congrArg (vs.modify i) (funext fun v => (hplace i).twice v a.2)
  refine ⟨htwice, fun vs a b => ?_⟩
  by_cases hplaces : ∀ i, fields.place? a.1 = some i → fields.place? b.1 ≠ some i
  · rw [mergeEntry_comm hplaces, htwice]
  · push Not at hplaces
    obtain ⟨i, ha, hb⟩ := hplaces
    simp only [mergeEntry_of_place? ha, mergeEntry_of_place? hb, List.modify_modify_eq]
    exact congrArg (vs.modify i) (funext fun v => (hplace i).between v a.2 b.2)

end Records

/-! ### Merging -/

mutual

/-- What decoding a document onto a value leaves where it succeeds. -/
def Shape.merge : Shape → Value → Document → Value
  | .leaf kind, v, d => (decodeLeaf kind v d "").value
  | .option item, v, d => if d.isNull then .unset else .set (item.merge (v.contentOr item.start) d)
  | .sequence item, v, d =>
    match d with
    | .null => v
    | d => .items ((elementEdits d).foldl (editElements item.start item.merge) v.elements)
  | .record fields, v, d =>
    match d with
    | .mapping entries => .record (entries.foldl (mergeEntry fields fields.merges) v.fields)
    | _ => v

def Fields.merges : Fields → List (Value → Document → Value)
  | .nil => []
  | .plain _ shape _ rest => shape.merge :: rest.merges
  | .inline _ inner rest => inner.merges ++ rest.merges

end

theorem Fields.merges_eq (fields : Fields) :
    fields.merges = fields.flatten.map fun f => f.shape.merge := by
  match fields with
  | .nil => rfl
  | .plain _ _ _ rest => simp [merges, flatten, Fields.merges_eq rest]
  | .inline _ inner rest => simp [merges, flatten, Fields.merges_eq inner, Fields.merges_eq rest]

theorem Fields.getD_merges {fields : Fields} {i : ℕ} {f : Field} (hf : fields.flatten[i]? = some f)
    (default : Value → Document → Value) : fields.merges.getD i default = f.shape.merge := by
  rw [merges_eq, List.getD_eq_getElem?_getD, List.getElem?_map, hf]
  rfl

section

variable {shape item : Shape} {fields : Fields} {v v' : Value} {d : Document} {path : String}

/-- Entries are merged alike where their keys stand for the same and their items are. -/
theorem mergeEntry_congr {vs : List Value} {a b : Document × Document}
    (hplace : fields.place? a.1 = fields.place? b.1)
    (h : ∀ i f, fields.place? a.1 = some i → fields.flatten[i]? = some f → ∀ v,
      f.shape.merge v a.2 = f.shape.merge v b.2) :
    mergeEntry fields fields.merges vs a = mergeEntry fields fields.merges vs b := by
  cases ha : fields.place? a.1 with
  | none => rw [mergeEntry_of_no_place ha, mergeEntry_of_no_place (hplace ▸ ha)]
  | some i =>
    obtain ⟨f, hf⟩ := Fields.exists_of_place? ha
    rw [mergeEntry_of_place? ha, mergeEntry_of_place? (hplace ▸ ha), Fields.getD_merges hf]
    exact congrArg (vs.modify i) (funext (h i f ha hf))

theorem Shape.merge_record (fields : Fields) (v : Value) (entries : List (Document × Document)) :
    (Shape.record fields).merge v (.mapping entries) =
      .record (entries.foldl (mergeEntry fields fields.merges) v.fields) := by
  rw [merge]

theorem Shape.merge_sequence (hd : d ≠ .null) : (Shape.sequence item).merge v d =
    .items ((elementEdits d).foldl (editElements item.start item.merge) v.elements) := by
  rw [merge]
  exact hd

theorem Shape.merge_of_standsAlone (hd : d.standsAlone = true) :
    (Shape.sequence item).merge v d = .items [item.merge item.start d] := by
  rw [merge_sequence, elementEdits_of_standsAlone hd]
  · rfl
  · rintro rfl
    cases hd

theorem Shape.merge_option (hnull : d.isNull = false) :
    (Shape.option item).merge v d = .set (item.merge (v.contentOr item.start) d) := by
  rw [merge, hnull, if_neg Bool.false_ne_true]

/-- Merging a document makes up for having merged it before. -/
theorem Shape.overwriting_merge (shape : Shape) : Overwriting shape.merge := by
  induction shape using Shape.induction with
  | leaf kind =>
    have hkeep : Overwriting fun (v : Value) (_ : Unit) => v := ⟨fun _ _ => rfl, fun _ _ _ => rfl⟩
    refine hkeep.of_cases id id (fun _ => rfl) fun d => ?_
    by_cases hkeeps : kind.keeps d = true
    · exact .inl fun v => by simp [merge, decodeLeaf, hkeeps]
    · cases hread : kind.read d with
      | ok s =>
        exact .inr (.inl ⟨.scalar s, fun v => by simp [merge, decodeLeaf, hkeeps, hread]⟩)
      | error reason => exact .inl fun v => by simp [merge, decodeLeaf, hkeeps, hread]
  | option item ih =>
    refine ih.of_cases (·.contentOr item.start) .set (fun _ => rfl) fun d => ?_
    by_cases hnull : d.isNull = true
    · exact .inr (.inl ⟨.unset, fun v => by rw [merge, if_pos hnull]⟩)
    · exact .inr (.inr ⟨d, fun v => merge_option (by simpa using hnull)⟩)
  | sequence item ih =>
    refine (overwriting_editElements ih item.start).foldl.of_cases Value.elements .items
      (fun _ => rfl) fun d => ?_
    by_cases hd : d = .null
    · exact .inl fun v => by rw [hd, merge]
    · exact .inr (.inr ⟨elementEdits d, fun v => merge_sequence hd⟩)
  | record fields ih =>
    have hentries : Overwriting (mergeEntry fields fields.merges) := by
      refine overwriting_mergeEntry ?_
      rw [Fields.merges_eq, List.forall_mem_map]
      exact ih
    refine hentries.foldl.of_cases Value.fields .record
      (fun _ => rfl) fun d => ?_
    cases d with
    | mapping entries => exact .inr (.inr ⟨entries, fun v => merge_record fields v entries⟩)
    | _ => exact .inl fun v => by rw [merge]; simp

/-! ### Decoding -/

theorem eq_map_of_decodeParts {start : Value} {decode : Decoder}
    {merge : Value → Document → Value}
    (hmerge : ∀ d path v', decode start d path = .done v' → v' = merge start d) {index : ℕ}
    {parts : List String} {vs : List Value}
    (h : decodeParts start decode path index parts = .ok vs) :
    vs = parts.map fun part => merge start (.string part) := by
  induction parts generalizing index vs with
  | nil =>
    cases h
    rfl
  | cons part parts ih =>
    obtain ⟨u, us, hu, hrest, rfl⟩ := decodeParts_cons_eq_ok_iff.1 h
    rw [List.map_cons, hmerge _ _ _ hu, ih hrest]

theorem eq_editElements_of_decodeElement
    (hmerge : ∀ {v v' d path}, item.decode v d path = .done v' → v' = item.merge v d)
    {vs ws : List Value} {i : ℕ} (h : decodeElement item.start item.decode vs i d path = .done ws) :
    ws = editElements item.start item.merge vs (.merge i d) := by
  obtain ⟨-, w, hw, rfl⟩ := decodeElement_eq_done_iff_put.1 h
  rw [editElements, hmerge hw]

/-- Decoding that succeeds merges. -/
theorem Shape.eq_merge_of_decode (h : shape.decode v d path = .done v') : v' = shape.merge v d := by
  induction shape using Shape.induction generalizing v v' d path with
  | leaf kind =>
    have hleaf : decodeLeaf kind v d "" = .done v' := (Shape.ignoresPath _).1 _ _ _ "" _ h
    rw [merge, hleaf, Outcome.value_done]
  | option item ih =>
    by_cases hnull : d.isNull = true
    · simp only [decode, decodeOption, if_pos hnull, Outcome.done_inj] at h
      rw [merge, if_pos hnull, h]
    · have hnull' : d.isNull = false := by simpa using hnull
      obtain ⟨u, hu, rfl⟩ := (decode_option_eq_done_iff hnull').1 h
      rw [merge_option hnull', ih hu]
  | sequence item ih =>
    cases d with
    | null =>
      obtain rfl : v = v' := Outcome.done_inj.1 h
      rw [merge]
    | sequence ds =>
      rw [decode, decodeSequence_sequence, Outcome.map_eq_done_iff] at h
      obtain ⟨ws, hws, rfl⟩ := h
      rw [merge_sequence (by simp), elementEdits, List.foldl_map]
      exact congrArg _ (Outcome.eq_foldl_of_each_eq_done
        (fun e _ us us' hstep => eq_editElements_of_decodeElement ih hstep) hws)
    | mapping entries =>
      rw [decode, decodeSequence_mapping, Outcome.map_eq_done_iff] at h
      obtain ⟨ws, hws, rfl⟩ := h
      rw [merge_sequence (by simp), elementEdits, List.foldl_filterMap]
      refine congrArg _ (Outcome.eq_foldl_of_each_eq_done (fun e _ us us' hstep => ?_) hws)
      obtain ⟨i, hi, helement⟩ := indexStep_eq_done_iff_index?.1 hstep
      rw [hi]
      exact eq_editElements_of_decodeElement ih helement
    | string s =>
      rw [decode, decodeSequence] at h
      cases hparts : decodeParts item.start item.decode path 0 (commaParts s) with
      | error e => simp [hparts] at h
      | ok vs =>
        obtain rfl : Value.items vs = v' := by simpa [hparts] using h
        rw [merge_sequence (by simp), elementEdits]
        simp [editElements, eq_map_of_decodeParts (fun _ _ _ => ih) hparts]
    | _ =>
      rw [decode, decodeSequence_of_standsAlone rfl, loneElement_eq_done_iff] at h
      obtain ⟨u, hu, rfl⟩ := h
      rw [merge_of_standsAlone rfl, ih hu]
  | record fields ih =>
    cases d with
    | null =>
      obtain rfl : v = v' := Outcome.done_inj.1 h
      rw [merge]
      simp
    | mapping entries =>
      rw [decode, decodeRecord_mapping, Outcome.map_eq_done_iff] at h
      obtain ⟨ws, hws, rfl⟩ := h
      rw [merge_record]
      refine congrArg _ (Outcome.eq_foldl_of_each_eq_done (fun e _ us us' hstep => ?_) hws)
      obtain ⟨i, f, u, u', hi, hf, hu, hu', rfl⟩ := recordStep_eq_done_iff_set.1 hstep
      rw [mergeEntry_of_place? hi, List.modify_eq_set_getElem?, hu, Fields.getD_merges hf,
        ih f (List.mem_of_getElem? hf) hu']
      rfl
    | _ => exact absurd h Outcome.failed_ne_done

end

end Schema

end LayeredConfig
