import LayeredConfig.Proofs.Schema.Acceptance
import LayeredConfig.Proofs.Schema.Merge
import Mathlib.Data.List.Pairwise
import Mathlib.Data.List.Perm.Basic

namespace LayeredConfig

/-- Mappings may have their entries in another order, at any depth. -/
inductive Document.Reordered : Document → Document → Prop
  | refl {d : Document} : Reordered d d
  | sequence {ds es : List Document} (hlength : ds.length = es.length)
      (h : ∀ d e, (d, e) ∈ ds.zip es → Reordered d e) : Reordered (.sequence ds) (.sequence es)
  | mapping {xs ys zs : List (Document × Document)} (hperm : xs.Perm ys)
      (hlength : ys.length = zs.length) (hkeys : ∀ y z, (y, z) ∈ ys.zip zs → Reordered y.1 z.1)
      (h : ∀ y z, (y, z) ∈ ys.zip zs → Reordered y.2 z.2) : Reordered (.mapping xs) (.mapping zs)
  | tagged {tag : String} {d e : Document} (h : Reordered d e) :
      Reordered (.tagged tag d) (.tagged tag e)

theorem exists_left_of_forall₂ {α β : Type} {R : α → β → Prop} {as : List α} {bs : List β}
    (h : List.Forall₂ R as bs) : ∀ b ∈ bs, ∃ a ∈ as, R a b := by
  induction h with
  | nil => simp
  | cons hab _ ih =>
    rw [List.forall_mem_cons]
    refine ⟨⟨_, by simp, hab⟩, fun b hb => ?_⟩
    obtain ⟨a, ha, h⟩ := ih b hb
    exact ⟨a, by simp [ha], h⟩

namespace Document.Reordered

variable {d e : Document} {ds es : List Document} {xs zs : List (Document × Document)}

def Entry (x y : Document × Document) : Prop := x.1.Reordered y.1 ∧ x.2.Reordered y.2

theorem exists_items (h : Reordered (.sequence ds) e) :
    ∃ es, e = .sequence es ∧ List.Forall₂ Reordered ds es := by
  cases h with
  | refl => exact ⟨ds, rfl, List.forall₂_same.2 fun d _ => .refl⟩
  | sequence hlength h => exact ⟨_, rfl, List.forall₂_iff_zip.2 ⟨hlength, h _ _⟩⟩

theorem exists_entries (h : Reordered (.mapping xs) e) :
    ∃ ys zs, e = .mapping zs ∧ xs.Perm ys ∧ List.Forall₂ Entry ys zs := by
  cases h with
  | refl => exact ⟨xs, xs, rfl, .refl xs, List.forall₂_same.2 fun x _ => ⟨.refl, .refl⟩⟩
  | mapping hperm hlength hkeys h =>
    exact ⟨_, _, rfl, hperm, List.forall₂_iff_zip.2 ⟨hlength, fun hmem =>
      ⟨hkeys _ _ hmem, h _ _ hmem⟩⟩⟩

theorem of_items (h : List.Forall₂ Reordered ds es) : Reordered (.sequence ds) (.sequence es) := by
  obtain ⟨hlength, hzip⟩ := List.forall₂_iff_zip.1 h
  exact .sequence hlength fun d e hmem => hzip hmem

theorem of_entries {ys : List (Document × Document)} (hperm : xs.Perm ys)
    (h : List.Forall₂ Entry ys zs) : Reordered (.mapping xs) (.mapping zs) := by
  obtain ⟨hlength, hzip⟩ := List.forall₂_iff_zip.1 h
  exact .mapping hperm hlength (fun y z hmem => (hzip hmem).1) fun y z hmem => (hzip hmem).2

theorem symm (h : d.Reordered e) : e.Reordered d := by
  induction h with
  | refl => exact .refl
  | sequence hlength h ih =>
    exact of_items (List.Forall₂.flip (List.forall₂_iff_zip.2 ⟨hlength, ih _ _⟩))
  | @mapping xs ys zs hperm hlength hkeys h ihkeys ih =>
    have hback : List.Forall₂ (fun y z => Entry z y) ys zs :=
      List.forall₂_iff_zip.2 ⟨hlength, fun hmem => ⟨ihkeys _ _ hmem, ih _ _ hmem⟩⟩
    -- The way back changes the entries first and their order then, so the two change places.
    obtain ⟨ws, hws, hperm'⟩ := List.perm_comp_forall₂ hperm hback
    exact of_entries hperm'.symm hws.flip
  | tagged h ih => exact .tagged ih

/-! ### What stays the same -/

theorem isNull_eq (h : d.Reordered e) : d.isNull = e.isNull := by
  induction h with
  | tagged h ih => exact ih
  | _ => rfl

theorem standsAlone_eq (h : d.Reordered e) : d.standsAlone = e.standsAlone := by
  cases h <;> rfl

theorem keyText?_eq (h : d.Reordered e) : Schema.keyText? d = Schema.keyText? e := by
  cases h <;> rfl

theorem Entry.place?_eq {x y : Document × Document} (h : Entry x y) (fields : Schema.Fields) :
    fields.place? x.1 = fields.place? y.1 := by
  rw [Schema.Fields.place?, Schema.Fields.place?, h.1.keyText?_eq]

theorem Entry.elementIndex?_eq {x y : Document × Document} (h : Entry x y) :
    Schema.elementIndex? x.1 = Schema.elementIndex? y.1 := by
  rw [Schema.elementIndex?, Schema.elementIndex?, h.1.keyText?_eq]

theorem keeps_eq (h : d.Reordered e) (kind : Schema.Leaf) : kind.keeps d = kind.keeps e := by
  have hnull := h.isNull_eq
  cases h with
  | refl => rfl
  | tagged h => cases kind <;> first | rfl | exact hnull
  | _ => cases kind <;> rfl

/-- Scalars are the same documents, and nothing else is read. -/
theorem read_eq (h : d.Reordered e) (kind : Schema.Leaf) :
    (kind.read d).toOption = (kind.read e).toOption := by
  cases h with
  | refl => rfl
  | _ => cases kind <;> rfl

theorem inMemory (h : d.Reordered e) (hd : d.InMemory) : e.InMemory := by
  induction h with
  | refl => exact hd
  | sequence hlength h ih =>
    cases hd with
    | sequence hbound hds =>
      refine .sequence (hlength ▸ hbound) fun e he => ?_
      have hitems := List.forall₂_iff_zip.2 ⟨hlength, ih _ _⟩
      obtain ⟨d, hd, hde⟩ := exists_left_of_forall₂ hitems e he
      exact hde (hds d hd)
  | mapping hperm hlength hkeys h ihkeys ih =>
    cases hd with
    | mapping hxs =>
      refine .mapping fun z hz => ?_
      have hentries := List.forall₂_iff_zip.2 ⟨hlength, ih _ _⟩
      obtain ⟨y, hy, hyz⟩ := exists_left_of_forall₂ hentries z hz
      exact hyz (hxs y (hperm.mem_iff.2 hy))
  | tagged h ih =>
    cases hd with
    | tagged hd => exact .tagged (ih hd)

/-- Every entry has a partner in the other mapping. -/
theorem entry_partners (h : Reordered (.mapping xs) e) : ∃ zs, e = .mapping zs ∧
    (∀ x ∈ xs, ∃ z ∈ zs, Entry x z) ∧ ∀ z ∈ zs, ∃ x ∈ xs, Entry x z := by
  obtain ⟨ys, zs, rfl, hperm, hys⟩ := h.exists_entries
  refine ⟨zs, rfl, fun x hx => ?_, fun z hz => ?_⟩
  · exact exists_left_of_forall₂ (R := fun z y => Entry y z) hys.flip x (hperm.mem_iff.1 hx)
  · obtain ⟨y, hy, hyz⟩ := exists_left_of_forall₂ hys z hz
    exact ⟨y, hperm.mem_iff.2 hy, hyz⟩

theorem item_partners (h : Reordered (.sequence ds) e) : ∃ es, e = .sequence es ∧
    (∀ d ∈ ds, ∃ x ∈ es, Reordered d x) ∧ ∀ x ∈ es, ∃ d ∈ ds, Reordered d x := by
  obtain ⟨es, rfl, hes⟩ := h.exists_items
  exact ⟨es, rfl, exists_left_of_forall₂ (R := fun x d => Reordered d x) hes.flip,
    exists_left_of_forall₂ hes⟩

end Document.Reordered

namespace Schema

variable {shape item t : Shape} {fields : Fields} {v w : Value} {d e x : Document}

/-! ### Acceptance -/

/-- Documents that differ in the order of mappings lead to parts that do. -/
theorem Shape.LeadsTo.reordered (h : LeadsTo t x shape d) (hr : d.Reordered e) :
    ∃ y, LeadsTo t y shape e ∧ x.Reordered y := by
  induction h generalizing e with
  | here => exact ⟨e, .here, hr⟩
  | content _ ih =>
    obtain ⟨y, hy, hxy⟩ := ih hr
    exact ⟨y, .content hy, hxy⟩
  | field ha hi hf _ ih =>
    obtain ⟨zs, rfl, hzs, -⟩ := hr.entry_partners
    obtain ⟨z, hz, hentry⟩ := hzs _ ha
    obtain ⟨y, hy, hxy⟩ := ih hentry.2
    exact ⟨y, .field hz (hentry.place?_eq _ ▸ hi) hf hy, hxy⟩
  | item hd _ ih =>
    obtain ⟨es, rfl, hes, -⟩ := hr.item_partners
    obtain ⟨e, he, hde⟩ := hes _ hd
    obtain ⟨y, hy, hxy⟩ := ih hde
    exact ⟨y, .item he hy, hxy⟩
  | indexed ha hi _ ih =>
    obtain ⟨zs, rfl, hzs, -⟩ := hr.entry_partners
    obtain ⟨z, hz, hentry⟩ := hzs _ ha
    obtain ⟨y, hy, hxy⟩ := ih hentry.2
    exact ⟨y, .indexed hz (hentry.elementIndex?_eq ▸ hi) hy, hxy⟩
  | part hpart _ ih =>
    cases hr with
    | refl =>
      obtain ⟨y, hy, hxy⟩ := ih .refl
      exact ⟨y, .part hpart hy, hxy⟩
  | lone hd _ ih =>
    obtain ⟨y, hy, hxy⟩ := ih hr
    exact ⟨y, .lone (hr.standsAlone_eq ▸ hd) hy, hxy⟩

theorem Shape.IndexesWithin.reordered {bound : ℕ} (hd : shape.IndexesWithin bound d)
    (hr : d.Reordered e) : shape.IndexesWithin bound e := by
  intro item entries hleads a ha i hi
  obtain ⟨y, hy, hentries⟩ := hleads.reordered hr.symm
  obtain ⟨zs, rfl, hzs, -⟩ := hentries.entry_partners
  obtain ⟨z, hz, hentry⟩ := hzs a ha
  exact hd item zs hy z hz i (hentry.elementIndex?_eq ▸ hi)

theorem Shape.Accepts.reordered (h : shape.Accepts d) (hr : d.Reordered e) : shape.Accepts e := by
  induction h generalizing e with
  | null =>
    cases hr with
    | refl => exact .null
  | @read kind d s h =>
    have hread := hr.read_eq kind
    rw [h] at hread
    cases he : kind.read e with
    | ok s' => exact .read he
    | error reason =>
      rw [he] at hread
      cases hread
  | kept h => exact .kept (hr.keeps_eq _ ▸ h)
  | unset h => exact .unset (hr.isNull_eq ▸ h)
  | content _ ih => exact .content (ih hr)
  | @record fields xs hkeys h ih =>
    obtain ⟨zs, rfl, -, hzs⟩ := hr.entry_partners
    refine .record (fun z hz => ?_) fun z hz i f hi hf => ?_
    · obtain ⟨x, hx, hentry⟩ := hzs z hz
      exact hentry.place?_eq _ ▸ hkeys x hx
    · obtain ⟨x, hx, hentry⟩ := hzs z hz
      exact ih x hx i f ((hentry.place?_eq _).trans hi) hf hentry.2
  | items h ih =>
    obtain ⟨es, rfl, -, hes⟩ := hr.item_partners
    refine .items fun e he => ?_
    obtain ⟨d, hd, hde⟩ := hes e he
    exact ih d hd hde
  | parts h _ =>
    cases hr with
    | refl => exact .parts h
  | indexed hkeys h ih =>
    obtain ⟨zs, rfl, -, hzs⟩ := hr.entry_partners
    refine .indexed (fun z hz => ?_) fun z hz => ?_
    · obtain ⟨x, hx, hentry⟩ := hzs z hz
      exact hentry.elementIndex?_eq ▸ hkeys x hx
    · obtain ⟨x, hx, hentry⟩ := hzs z hz
      exact ih x hx hentry.2
  | lone hd _ ih => exact .lone (hr.standsAlone_eq ▸ hd) (ih hr)

/-! ### Merging -/

section Rows

variable {α β : Type} {f : α → β → α} {xs ys : List β}

/-- Steps that commute can be taken in any order. -/
theorem foldl_eq_of_perm (hcomm : xs.Pairwise fun x y => ∀ a, f (f a x) y = f (f a y) x)
    (hperm : xs.Perm ys) (a : α) : xs.foldl f a = ys.foldl f a := by
  have : Std.Symm fun x y => ∀ a, f (f a x) y = f (f a y) x := ⟨fun _ _ h a => (h a).symm⟩
  refine hperm.foldl_eq' (fun x hx y hy z => ?_) a
  exact hcomm.forall_of_forall (fun _ _ _ => rfl) hx hy z

theorem foldl_eq_of_forall₂ (h : List.Forall₂ (fun x y => ∀ a, f a x = f a y) xs ys) (a : α) :
    xs.foldl f a = ys.foldl f a :=
  List.rel_foldl (P := Eq) (fun _ _ hab _ _ hxy => by rw [hab, hxy]) rfl h

end Rows

theorem forall₂_zipIdx {α β : Type} {R : α → β → Prop} {as : List α} {bs : List β}
    (h : List.Forall₂ R as bs) (n : ℕ) :
    List.Forall₂ (fun a b => R a.1 b.1 ∧ a.2 = b.2) (as.zipIdx n) (bs.zipIdx n) := by
  induction h generalizing n with
  | nil => exact .nil
  | cons hab _ ih => exact .cons ⟨hab, rfl⟩ (ih (n + 1))

/-- Such documents do the same edits to a sequence, where their parts are merged alike. -/
theorem foldl_elementEdits_mapping {start : Value} {merge : Value → Document → Value}
    {xs ys zs : List (Document × Document)} (hperm : xs.Perm ys)
    (hunambiguous : xs.Pairwise fun a b => ∀ i, elementIndex? a.1 = some i →
      elementIndex? b.1 ≠ some i)
    (h : List.Forall₂ (fun y z => elementIndex? y.1 = elementIndex? z.1 ∧
      ∀ i, elementIndex? y.1 = some i → ∀ v, merge v y.2 = merge v z.2) ys zs) (vs : List Value) :
    (elementEdits (.mapping xs)).foldl (editElements start merge) vs =
      (elementEdits (.mapping zs)).foldl (editElements start merge) vs := by
  have hcomm : (elementEdits (.mapping xs)).Pairwise fun a b => ∀ vs,
      editElements start merge (editElements start merge vs a) b =
        editElements start merge (editElements start merge vs b) a := by
    refine List.pairwise_filterMap.2 (hunambiguous.imp fun {x y} hxy a ha b hb vs => ?_)
    obtain ⟨i, hi, rfl⟩ := Option.map_eq_some_iff.1 ha
    obtain ⟨j, hj, rfl⟩ := Option.map_eq_some_iff.1 hb
    exact editElements_comm (fun hij : i = j => hxy i hi (hij ▸ hj)) x.2 y.2 vs
  have hedits : List.Forall₂ (fun a b => ∀ vs, editElements start merge vs a =
      editElements start merge vs b) (elementEdits (.mapping ys)) (elementEdits (.mapping zs)) := by
    refine List.rel_filterMap (fun y z hyz => ?_) h
    obtain ⟨hindex, hmerge⟩ := hyz
    cases hi : elementIndex? y.1 with
    | none =>
      rw [hi] at hindex
      rw [← hindex]
      exact .none
    | some i =>
      rw [← hindex, hi]
      exact .some fun vs => by rw [editElements, editElements, hmerge i hi]
  exact (foldl_eq_of_perm hcomm (hperm.filterMap _) vs).trans (foldl_eq_of_forall₂ hedits vs)

/-- Documents that differ in the order of mappings are merged alike, where no two keys stand for the
same. -/
theorem Shape.merge_reordered (hd : shape.Unambiguous d) (hr : d.Reordered e) (v : Value) :
    shape.merge v d = shape.merge v e := by
  induction shape using Shape.induction generalizing v d e with
  | leaf kind =>
    -- The errors may differ in the document that they show, but they leave the value alone.
    have hread := hr.read_eq kind
    rw [merge, merge, decodeLeaf, decodeLeaf, hr.keeps_eq kind]
    split
    · rfl
    · cases hs : kind.read d <;> cases ht : kind.read e <;> simp_all [Except.toOption]
  | option item ih =>
    have hitem : item.Unambiguous d := LeadsTo.unambiguous (.content .here) hd
    rw [merge, merge, hr.isNull_eq, ih hitem hr]
  | sequence item ih =>
    cases hr with
    | refl => rfl
    | @sequence ds es hlength h =>
      have hitems : List.Forall₂ (fun d e => ∀ v, item.merge v d = item.merge v e) ds es :=
        List.forall₂_iff_zip.2 ⟨hlength, fun hmem v =>
          ih (LeadsTo.unambiguous (.item (List.of_mem_zip hmem).1 .here) hd) (h _ _ hmem) v⟩
      rw [merge_sequence (by simp), merge_sequence (by simp), elementEdits, elementEdits,
        List.foldl_map, List.foldl_map]
      refine congrArg _ (foldl_eq_of_forall₂ ((forall₂_zipIdx hitems 0).imp ?_) _)
      rintro a b ⟨hmerge, hindex⟩ vs
      rw [editElements, editElements, hindex, hmerge]
    | @mapping xs ys zs hperm hlength hkeys h =>
      rw [merge_sequence (by simp), merge_sequence (by simp)]
      refine congrArg _ (foldl_elementEdits_mapping hperm (hd.elements item xs .here) ?_ _)
      refine List.forall₂_iff_zip.2 ⟨hlength, fun {y z} hmem => ?_⟩
      have hy : y ∈ xs := hperm.mem_iff.2 (List.of_mem_zip hmem).1
      have hentry : Document.Reordered.Entry y z := ⟨hkeys y z hmem, h y z hmem⟩
      exact ⟨hentry.elementIndex?_eq, fun i hi v =>
        ih (LeadsTo.unambiguous (.indexed hy hi .here) hd) hentry.2 v⟩
    | tagged h =>
      have hitem := ih (LeadsTo.unambiguous (.lone rfl .here) hd) (.tagged h) item.start
      rw [merge_of_standsAlone rfl, merge_of_standsAlone rfl, hitem]
  | record fields ih =>
    cases hr with
    | refl => rfl
    | @mapping xs ys zs hperm hlength hkeys h =>
      have hcomm : xs.Pairwise fun x y => ∀ vs,
          mergeEntry fields fields.merges (mergeEntry fields fields.merges vs x) y =
            mergeEntry fields fields.merges (mergeEntry fields fields.merges vs y) x :=
        (hd.fields fields xs .here).imp fun hxy vs => mergeEntry_comm hxy
      have hentries : List.Forall₂ (fun y z => ∀ vs, mergeEntry fields fields.merges vs y =
          mergeEntry fields fields.merges vs z) ys zs := by
        refine List.forall₂_iff_zip.2 ⟨hlength, fun {y z} hmem vs => ?_⟩
        have hy : y ∈ xs := hperm.mem_iff.2 (List.of_mem_zip hmem).1
        have hentry : Document.Reordered.Entry y z := ⟨hkeys y z hmem, h y z hmem⟩
        refine mergeEntry_congr (hentry.place?_eq fields) fun i f hi hf v => ?_
        exact ih f (List.mem_of_getElem? hf)
          (LeadsTo.unambiguous (.field hy hi hf .here) hd) hentry.2 v
      rw [merge_record, merge_record]
      exact congrArg _ ((foldl_eq_of_perm hcomm hperm _).trans (foldl_eq_of_forall₂ hentries _))
    | _ => rw [merge, merge] <;> simp

/-! ### Decoding -/

/-- Documents that differ in the order of mappings are decoded alike, where no two keys stand for
the same: if both succeed they leave the same, and one succeeds if the other does, as long as no
index is too large. -/
theorem Shape.decode_reordered (hstarts : shape.StartsWith Leaf.Holds) (hv : shape.Holds v)
    (hmem : d.InMemory) (hr : d.Reordered e) (hd : shape.Unambiguous d) (path : String) :
    (∀ u w, shape.decode v d path = .done u → shape.decode v e path = .done w → u = w) ∧
      (shape.IndexesWithin maxGrowth d →
        ((∃ u, shape.decode v d path = .done u) ↔ ∃ w, shape.decode v e path = .done w)) := by
  refine ⟨fun u w hu hw => ?_, fun hwithin => ?_⟩
  · calc u = shape.merge v d := eq_merge_of_decode hu
      _ = shape.merge v e := merge_reordered hd hr v
      _ = w := (eq_merge_of_decode hw).symm
  · rw [exists_done_iff_accepts hstarts hv hmem hwithin path,
      exists_done_iff_accepts hstarts hv (hr.inMemory hmem) (hwithin.reordered hr) path]
    exact ⟨fun h => h.reordered hr, fun h => h.reordered hr.symm⟩

/-- The keys of a record and the indexes of a sequence in it in another order. -/
theorem Shape.decode_reordered_modules :
    let shape : Shape := .record (.plain "name" (.leaf .string) (.scalar (.text "main")) <|
      .plain "gauges" (.sequence (.leaf (.integer .u8))) (.items []) .nil)
    let gauges (counts : List Int) : Value := .items (counts.map fun i => .scalar (.integer i))
    let v : Value := .record [.scalar (.text "main"), gauges [4]]
    let w : Value := .record [.scalar (.text "side"), gauges [1, 0, 5]]
    let first : Document × Document := (.string "0", .number (.integer 1))
    let third : Document × Document := (.string "2", .number (.integer 5))
    let name : Document × Document := (.string "Name", .string "side")
    let d : Document := .mapping [(.string "gauges", .mapping [third, first]), name]
    let e : Document := .mapping [name, (.string "gauges", .mapping [first, third])]
    shape.StartsWith Leaf.Holds ∧ shape.Holds v ∧ d.InMemory ∧ d.Reordered e ∧
      shape.Unambiguous d ∧ shape.IndexesWithin maxGrowth d ∧
      shape.decode v d "" = .done w ∧ shape.decode v e "" = .done w := by
  intro shape gauges v w first third name d e
  have hstarts : shape.StartsWith Leaf.Holds := by
    intro fields h
    obtain rfl : fields = .plain "name" (.leaf .string) (.scalar (.text "main"))
        (.plain "gauges" (.sequence (.leaf (.integer .u8))) (.items []) .nil) := by
      simpa [shape, Fields.flatten] using h
    simp only [Fields.flatten, List.forall_mem_cons]
    exact ⟨.scalar trivial, .items (by decide) (by simp), by simp⟩
  have hv : shape.Holds v := by
    have hfour : IntegerKind.Holds .u8 4 := by decide
    exact .record (.cons (.scalar trivial) (.cons (.items (by decide) (by
      simpa [gauges] using .scalar hfour)) .nil))
  have hmem : d.InMemory := by
    refine .mapping ?_
    simp only [List.forall_mem_cons]
    refine ⟨.mapping ?_, .string (by decide), by simp⟩
    simp only [List.forall_mem_cons]
    exact ⟨.number, .number, by simp⟩
  have hr : d.Reordered e := by
    have hinner : Document.Reordered (.mapping [third, first]) (.mapping [first, third]) :=
      .of_entries (.swap _ _ _) (List.forall₂_same.2 fun _ _ => ⟨.refl, .refl⟩)
    refine .of_entries (.swap _ _ _) (.cons ⟨.refl, .refl⟩ (.cons ⟨.refl, hinner⟩ .nil))
  have hunambiguous : shape.Unambiguous d := by
    refine Shape.unambiguous_record (List.pairwise_pair.2 fun i hi hi' => ?_) ?_
    · cases hi.symm.trans (rfl : _ = some 1)
      cases hi'.symm.trans (rfl : _ = some 0)
    · simp only [List.forall_mem_cons]
      refine ⟨fun i f hi hf => ?_, fun i f hi hf => ?_, by simp⟩
      · obtain rfl : i = 1 := Option.some.inj (hi.symm.trans rfl)
        obtain rfl := Option.some.inj hf
        refine Shape.unambiguous_sequence (List.pairwise_pair.2 fun i hi hi' => ?_) ?_
        · cases hi.symm.trans (rfl : _ = some 2)
          cases hi'.symm.trans (rfl : _ = some 0)
        · exact fun e he i hi => Shape.unambiguous_leaf
      · obtain rfl : i = 0 := Option.some.inj (hi.symm.trans rfl)
        obtain rfl := Option.some.inj hf
        exact Shape.unambiguous_leaf
  have hwithin : shape.IndexesWithin maxGrowth d := by
    refine Shape.indexesWithin_record ?_
    simp only [List.forall_mem_cons]
    refine ⟨fun i f hi hf => ?_, fun i f hi hf => ?_, by simp⟩
    · obtain rfl : i = 1 := Option.some.inj (hi.symm.trans rfl)
      obtain rfl := Option.some.inj hf
      refine Shape.indexesWithin_sequence ?_
      simp only [List.forall_mem_cons]
      refine ⟨fun i hi => ?_, fun i hi => ?_, by simp⟩
      · obtain rfl : i = 2 := Option.some.inj (hi.symm.trans rfl)
        exact ⟨by decide, Shape.indexesWithin_leaf⟩
      · obtain rfl : i = 0 := Option.some.inj (hi.symm.trans rfl)
        exact ⟨by decide, Shape.indexesWithin_leaf⟩
    · obtain rfl : i = 0 := Option.some.inj (hi.symm.trans rfl)
      obtain rfl := Option.some.inj hf
      exact Shape.indexesWithin_leaf
  have hd : shape.decode v d "" = .done w := by rfl
  obtain ⟨hsame, hdone⟩ := Shape.decode_reordered hstarts hv hmem hr hunambiguous ""
  obtain ⟨w', hw'⟩ := (hdone hwithin).1 ⟨w, hd⟩
  obtain rfl := hsame w w' hd hw'
  exact ⟨hstarts, hv, hmem, hr, hunambiguous, hwithin, hd, hw'⟩

end Schema

end LayeredConfig
