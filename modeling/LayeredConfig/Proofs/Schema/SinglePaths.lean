import LayeredConfig.Environment.Override
import LayeredConfig.Proofs.Decimal.Numeral
import LayeredConfig.Proofs.Schema.Location

namespace LayeredConfig

namespace Document

mutual

/-- The documents that each follow one path to a leaf, in order. An item of a sequence stands under
its index; what has no content below it is a leaf. -/
def singlePaths : Document → List Document
  | mapping (e :: entries) => (entryPaths (e :: entries)).map fun e => mapping [e]
  | sequence (d :: items) => (itemPaths 0 (d :: items)).map fun e => mapping [e]
  | d => [d]

def entryPaths : List (Document × Document) → List (Document × Document)
  | [] => []
  | (key, d) :: entries => d.singlePaths.map (fun x => (key, x)) ++ entryPaths entries

def itemPaths (index : Nat) : List Document → List (Document × Document)
  | [] => []
  | d :: items =>
    d.singlePaths.map (fun x => (string (toString index), x)) ++ itemPaths (index + 1) items

end

theorem entryPaths_eq (entries : List (Document × Document)) : entryPaths entries =
    entries.flatMap fun e => e.2.singlePaths.map fun x => (e.1, x) := by
  induction entries with
  | nil => rfl
  | cons e entries ih => simp [entryPaths, ih]

theorem itemPaths_eq (index : ℕ) (items : List Document) : itemPaths index items =
    (items.zipIdx index).flatMap fun e =>
      e.1.singlePaths.map fun x => (string (toString e.2), x) := by
  induction items generalizing index with
  | nil => rfl
  | cons d items ih => rw [itemPaths, ih, List.zipIdx_cons, List.flatMap_cons]

theorem singlePaths_ne_nil (d : Document) : d.singlePaths ≠ [] := by
  match d with
  | mapping ((key, d) :: entries) => simp [singlePaths, entryPaths, singlePaths_ne_nil d]
  | sequence (d :: items) => simp [singlePaths, itemPaths, singlePaths_ne_nil d]
  | mapping [] | sequence [] | null | bool _ | number _ | string _ | tagged _ _ =>
    simp [singlePaths]

theorem isNull_of_mem_singlePaths {d : Document} (hnull : ¬d.isNull = true) :
    ∀ x ∈ d.singlePaths, x.isNull = false := by
  intro x hx
  match d with
  | mapping (e :: entries) =>
    obtain ⟨e, -, rfl⟩ := List.mem_map.1 hx
    rfl
  | sequence (d :: items) =>
    obtain ⟨e, -, rfl⟩ := List.mem_map.1 hx
    rfl
  | mapping [] | sequence [] | null | bool _ | number _ | string _ | tagged _ _ =>
    rw [List.mem_singleton.1 hx]
    simpa using hnull

def IsLeaf (d : Document) : Prop := d.singlePaths = [d]

/-- A document is a leaf, or holds entries or items. -/
theorem leaf_cases (d : Document) : d.IsLeaf ∨ (∃ entries, entries ≠ [] ∧ d = mapping entries) ∨
    ∃ items, items ≠ [] ∧ d = sequence items := by
  match d with
  | mapping (e :: entries) => exact .inr (.inl ⟨e :: entries, by simp, rfl⟩)
  | sequence (d :: items) => exact .inr (.inr ⟨d :: items, by simp, rfl⟩)
  | mapping [] | sequence [] | null | bool _ | number _ | string _ | tagged _ _ => exact .inl rfl

theorem singlePaths_mapping {entries : List (Document × Document)} (h : entries ≠ []) :
    (mapping entries).singlePaths = (entryPaths entries).map fun e => mapping [e] := by
  cases entries with
  | nil => exact absurd rfl h
  | cons e entries => rfl

theorem singlePaths_sequence {items : List Document} (h : items ≠ []) :
    (sequence items).singlePaths = (itemPaths 0 items).map fun e => mapping [e] := by
  cases items with
  | nil => exact absurd rfl h
  | cons d items => rfl

theorem entryPaths_ne_nil {entries : List (Document × Document)} (h : entries ≠ []) :
    entryPaths entries ≠ [] := by
  cases entries with
  | nil => exact absurd rfl h
  | cons e entries => simp [entryPaths, singlePaths_ne_nil]

theorem itemPaths_ne_nil {items : List Document} (h : items ≠ []) : itemPaths 0 items ≠ [] := by
  cases items with
  | nil => exact absurd rfl h
  | cons d items => simp [itemPaths, singlePaths_ne_nil]

end Document

namespace Schema

variable {start : Value} {decode : Decoder} {build : Builder}

/-! ### One path after the other -/

def Decoder.each (decode : Decoder) (path : String) (v : Value) (ds : List Document) :
    Decoded Value :=
  Outcome.each (fun v d => decode v d path) v ds

/-- The single paths of a document have the effect of the document. -/
def Decoder.Splits (decode : Decoder) : Prop :=
  ∀ v d path v', d.InMemory → decode v d path = .done v' →
    ∀ other, decode.each other v d.singlePaths = .done v'

/-- What a document builds, its first single path builds and the others complete. -/
def Builder.Splits (build : Builder) (decode : Decoder) : Prop :=
  ∀ d path v, d.InMemory → build d path = .ok v → ∀ other, ∃ x xs w,
    d.singlePaths = x :: xs ∧ build x other = .ok w ∧ decode.each other w xs = .done v

theorem Decoder.IgnoresPath.each_leaf (hd : decode.IgnoresPath) {v v' : Value} {d : Document}
    {path : String} (hleaf : d.IsLeaf) (h : decode v d path = .done v') (other : String) :
    decode.each other v d.singlePaths = .done v' := by
  rw [hleaf, Decoder.each, Outcome.each_singleton]
  exact hd v d path other v' h

theorem Builder.IgnoresPath.splits_leaf (hb : build.IgnoresPath) {v : Value} {d : Document}
    {path : String} (hleaf : d.IsLeaf) (h : build d path = .ok v) (other : String) :
    ∃ x xs w, d.singlePaths = x :: xs ∧ build x other = .ok w ∧
      decode.each other w xs = .done v :=
  ⟨d, [], v, hleaf, hb d path other v h, rfl⟩

/-- A builder that decodes onto a start splits as its decoder does. -/
theorem Decoder.Splits.seeded (hd : decode.Splits) (start : Value) :
    Builder.Splits (seeded start decode) decode := by
  intro d path v hmem h other
  have heach := hd start d path v hmem (Outcome.toExcept_eq_ok_iff.1 h) other
  obtain ⟨x, xs, hpaths⟩ := List.exists_cons_of_ne_nil d.singlePaths_ne_nil
  rw [hpaths] at heach
  obtain ⟨w, hw, hrest⟩ := Outcome.each_cons_eq_done_iff.1 heach
  exact ⟨x, xs, w, hpaths, Outcome.toExcept_eq_ok_iff.2 hw, hrest⟩

/-! ### Leaves and options -/

/-- No leaf takes entries or items. -/
theorem Leaf.read_eq_ok_isLeaf {kind : Leaf} {d : Document} {s : Scalar}
    (h : kind.read d = .ok s) : d.IsLeaf := by
  rcases d.leaf_cases with hleaf | ⟨entries, -, rfl⟩ | ⟨items, -, rfl⟩
  · exact hleaf
  · cases kind <;> cases h
  · cases kind <;> cases h

theorem Leaf.isLeaf_of_keeps {kind : Leaf} {d : Document} (h : kind.keeps d = true) :
    d.IsLeaf := by
  rcases d.leaf_cases with hleaf | ⟨entries, -, rfl⟩ | ⟨items, -, rfl⟩
  · exact hleaf
  · cases kind <;> cases h
  · cases kind <;> cases h

theorem isLeaf_of_decodeLeaf {kind : Leaf} {v v' : Value} {d : Document} {path : String}
    (h : decodeLeaf kind v d path = .done v') : d.IsLeaf := by
  unfold decodeLeaf at h
  split at h
  · next hkeeps => exact Leaf.isLeaf_of_keeps hkeeps
  · cases hread : kind.read d with
    | ok s => exact Leaf.read_eq_ok_isLeaf hread
    | error reason => simp [hread] at h

theorem isLeaf_of_buildLeaf {kind : Leaf} {v : Value} {d : Document} {path : String}
    (h : buildLeaf kind d path = .ok v) : d.IsLeaf := by
  unfold buildLeaf at h
  split at h
  · cases hread : kind.read d with
    | ok s => exact Leaf.read_eq_ok_isLeaf hread
    | error reason => simp [hread] at h
  · exact isLeaf_of_decodeLeaf (Outcome.toExcept_eq_ok_iff.1 h)

theorem decodeLeaf_splits (kind : Leaf) : Decoder.Splits (decodeLeaf kind) :=
  fun _ _ _ _ _ h other =>
    (decodeLeaf_ignoresPath kind).each_leaf (isLeaf_of_decodeLeaf h) h other

theorem buildLeaf_splits (kind : Leaf) : Builder.Splits (buildLeaf kind) (decodeLeaf kind) :=
  fun _ _ _ _ h other => (buildLeaf_ignoresPath kind).splits_leaf (isLeaf_of_buildLeaf h) h other

theorem isLeaf_of_isNull {d : Document} (h : d.isNull = true) : d.IsLeaf := by
  rcases d.leaf_cases with hleaf | ⟨entries, -, rfl⟩ | ⟨items, -, rfl⟩
  · exact hleaf
  · cases h
  · cases h

/-- What is no null goes to the content that is there. -/
theorem decodeOption_each_set {ds : List Document} (hds : ∀ d ∈ ds, d.isNull = false)
    (path : String) (content : Value) :
    Decoder.each (decodeOption decode build) path (.set content) ds =
      (decode.each path content ds).map .set :=
  Outcome.each_map_part fun c d hd => by simp [decodeOption, hds d hd]

theorem decodeOption_splits (hd : decode.IgnoresPath) (hb : build.IgnoresPath)
    (hds : decode.Splits) (hbs : build.Splits decode) :
    Decoder.Splits (decodeOption decode build) := by
  intro v d path v' hmem h other
  by_cases hnull : d.isNull = true
  · exact (decodeOption_ignoresPath hd hb).each_leaf (isLeaf_of_isNull hnull) h other
  · have hpaths := Document.isNull_of_mem_singlePaths hnull
    by_cases hset : ∃ content, v = .set content
    · obtain ⟨content, rfl⟩ := hset
      rw [decodeOption, if_neg hnull] at h
      obtain ⟨content', hcontent, rfl⟩ := Outcome.map_eq_done_iff.1 h
      rw [decodeOption_each_set hpaths, hds content d path content' hmem hcontent other]
      rfl
    · have hnew : ∀ content, v ≠ .set content := fun content hv => hset ⟨content, hv⟩
      obtain ⟨content, hbuild, rfl⟩ :=
        (decodeOption_new_eq_done_iff hnew (by simpa using hnull)).1 h
      obtain ⟨x, xs, w, hsplit, hx, hxs⟩ := hbs d path content hmem hbuild other
      rw [hsplit] at hpaths
      -- The first path sets the option, the others find a content there.
      have hfirst : decodeOption decode build v x other = .done (.set w) :=
        (decodeOption_new_eq_done_iff hnew (hpaths x (by simp))).2 ⟨w, hx, rfl⟩
      have hrest : Decoder.each (decodeOption decode build) other (.set w) xs =
          .done (.set content) := by
        rw [decodeOption_each_set fun x hx => hpaths x (List.mem_cons_of_mem _ hx), hxs]
        rfl
      rw [hsplit]
      exact Outcome.each_cons_eq_done_iff.2 ⟨.set w, hfirst, hrest⟩

theorem buildOption_splits (hb : build.IgnoresPath) (hbs : build.Splits decode) :
    Builder.Splits (buildOption build) (decodeOption decode build) := by
  intro d path v hmem h other
  by_cases hnull : d.isNull = true
  · exact (buildOption_ignoresPath hb).splits_leaf (isLeaf_of_isNull hnull) h other
  · have hpaths := Document.isNull_of_mem_singlePaths hnull
    rw [buildOption, if_neg hnull] at h
    cases hbuild : build d path with
    | error e => simp [hbuild, Except.map] at h
    | ok content =>
      obtain rfl : Value.set content = v := by simpa [hbuild, Except.map] using h
      obtain ⟨x, xs, w, hsplit, hx, hxs⟩ := hbs d path content hmem hbuild other
      rw [hsplit] at hpaths
      refine ⟨x, xs, .set w, hsplit, ?_, ?_⟩
      · simp [buildOption, hpaths x (by simp), hx, Except.map]
      · rw [decodeOption_each_set fun x hx => hpaths x (List.mem_cons_of_mem _ hx), hxs]
        rfl

/-! ### Records -/

theorem decodeRecord_singleton (table : List (String × Decoder)) (v : Value)
    (e : Document × Document) (path : String) : decodeRecord table v (.mapping [e]) path =
      (recordStep table path v.fields e).map .record := by
  rw [decodeRecord_mapping, Outcome.each_singleton]

/-- The single paths below a key reach the field that the key names. -/
theorem recordStep_splits {fields : Fields}
    (hfields : ∀ f ∈ fields.flatten, f.shape.decode.Splits) {path : String} {vs ws : List Value}
    {e : Document × Document} (hmem : e.2.InMemory)
    (h : recordStep fields.decoders path vs e = .done ws) (other : String) :
    Outcome.each (recordStep fields.decoders other) vs
      (e.2.singlePaths.map fun x => (e.1, x)) = .done ws := by
  obtain ⟨key, hkey, r, w, hw, rfl⟩ := recordStep_eq_done_iff.1 h
  have hfield := hfields _ r.field_mem r.value e.2 _ w hmem hw (joinPath other key)
  -- Whatever its value, the field stays where it is.
  have hstep (c : Value) (x : Document) :
      recordStep fields.decoders other (r.put c) (e.1, x) =
        (r.field.shape.decode c x (joinPath other key)).map r.put :=
    recordStep_found (e := (e.1, x)) (keyText_eq_ok_of_path other hkey) (r.renew c)
  have hpart : Outcome.each (fun vs x => recordStep fields.decoders other vs (e.1, x))
      (r.put r.value) e.2.singlePaths =
        (r.field.shape.decode.each (joinPath other key) r.value e.2.singlePaths).map r.put :=
    Outcome.each_map_part fun c x _ => hstep c x
  rw [r.put_value, hfield] at hpart
  rw [Outcome.each_map]
  exact hpart

theorem decodeRecord_splits {fields : Fields}
    (hignores : Decoder.IgnoresPath (decodeRecord fields.decoders))
    (hfields : ∀ f ∈ fields.flatten, f.shape.decode.Splits) :
    Decoder.Splits (decodeRecord fields.decoders) := by
  intro v d path v' hmem h other
  rcases d.leaf_cases with hleaf | ⟨entries, hne, rfl⟩ | ⟨items, -, rfl⟩
  · exact hignores.each_leaf hleaf h other
  · cases hmem with
    | mapping hentries =>
      rw [decodeRecord_mapping, Outcome.map_eq_done_iff] at h
      obtain ⟨ws, hws, rfl⟩ := h
      have hpaths : Outcome.each (recordStep fields.decoders other) v.fields
          (Document.entryPaths entries) = .done ws := by
        rw [Document.entryPaths_eq, Outcome.each_flatMap]
        exact Outcome.each_eq_done_of_forall
          (fun e he vs ws hstep => recordStep_splits hfields (hentries e he) hstep other) hws
      rw [Document.singlePaths_mapping hne, Decoder.each, Outcome.each_map,
        Outcome.each_enter_part (Document.entryPaths_ne_nil hne)
          (fun e _ => decodeRecord_singleton _ v e other)
          (fun vs e _ => decodeRecord_singleton _ (.record vs) e other), hpaths]
      rfl
  · exact absurd h Outcome.failed_ne_done

/-! ### Sequences -/

theorem decodeSequence_singleton (start v : Value) (e : Document × Document) (path : String) :
    decodeSequence start decode v (.mapping [e]) path =
      (indexStep start decode path v.elements e).map .items := by
  rw [decodeSequence_mapping, Outcome.each_singleton]

/-- The single paths of an item reach the element that the item reaches. The first of them grows
the sequence. -/
theorem decodeElement_splits (hds : decode.Splits) {vs ws : List Value} {index : ℕ} {d : Document}
    (hmem : d.InMemory) {path : String} (h : decodeElement start decode vs index d path = .done ws)
    (other : String) :
    Outcome.each (fun vs x => decodeElement start decode vs index x other) vs d.singlePaths =
      .done ws := by
  obtain ⟨grown, hgrow, w, hw, rfl⟩ := decodeElement_eq_done_iff.1 h
  have hlt := lt_length_of_grow? hgrow
  have helement := hds (grown.getD index start) d path w hmem hw other
  -- Grown once, the sequence is long enough for the paths that follow.
  have hkept (c : Value) (x : Document) :
      decodeElement start decode (grown.set index c) index x other =
        (decode c x other).map (grown.set index) := by
    have hlt' : index < (grown.set index c).length := by simpa using hlt
    rw [decodeElement_of_grow? (grow?_of_lt hlt')]
    have hget : (grown.set index c).getD index start = c := by simp [hlt]
    have hset : (grown.set index c).set index = grown.set index := by
      funext u
      simp
    rw [hget, hset]
  rw [Outcome.each_enter_part d.singlePaths_ne_nil
    (fun x _ => decodeElement_of_grow? hgrow x other) fun c x _ => hkept c x]
  rw [Decoder.each] at helement
  rw [helement]
  rfl

/-- The text of an index stands for it. -/
theorem sequenceIndex_toString {index : ℕ} (h : index < 2 ^ 64) (path : String) :
    sequenceIndex (toString index) path = .ok index := by
  have hunbroken := Decimal.unbroken_toDigits (Nat.one_lt_ofNat : 1 < 10) (by decide) index
  rw [sequenceIndex_eq_ok_iff, Nat.toString_eq_ofList_toDigits, String.toList_ofList,
    hunbroken.trimChars_eq]
  exact ⟨Decimal.unsigned?_toDigits index, h⟩

theorem indexStep_splits (hds : decode.Splits) {vs ws : List Value} {key : Document}
    {text : String} {index : ℕ} {d : Document} (hmem : d.InMemory) {path : String}
    (hkey : ∀ path, keyText key path = .ok text)
    (hindex : ∀ path, sequenceIndex text path = .ok index)
    (h : decodeElement start decode vs index d path = .done ws) (other : String) :
    Outcome.each (indexStep start decode other) vs (d.singlePaths.map fun x => (key, x)) =
      .done ws := by
  have hstep : (fun vs x => indexStep start decode other vs (key, x)) =
      fun vs x => decodeElement start decode vs index x (joinPath other text) := by
    funext vs x
    simp [indexStep, hkey, hindex]
  rw [Outcome.each_map, hstep]
  exact decodeElement_splits hds hmem h _

theorem decodeSequence_splits (hd : decode.IgnoresPath) (hds : decode.Splits) (start : Value) :
    Decoder.Splits (decodeSequence start decode) := by
  intro v d path v' hmem h other
  -- Either way the paths are entries with indices as keys.
  have hrow : ∀ {pairs : List (Document × Document)} {ws : List Value}, pairs ≠ [] →
      Outcome.each (indexStep start decode other) v.elements pairs = .done ws →
      Decoder.each (decodeSequence start decode) other v (pairs.map fun e => .mapping [e]) =
        .done (.items ws) := by
    intro pairs ws hne hpairs
    rw [Decoder.each, Outcome.each_map,
      Outcome.each_enter_part hne (fun e _ => decodeSequence_singleton start v e other)
        (fun vs e _ => decodeSequence_singleton start (.items vs) e other), hpairs]
    rfl
  rcases d.leaf_cases with hleaf | ⟨entries, hne, rfl⟩ | ⟨items, hne, rfl⟩
  · exact (decodeSequence_ignoresPath hd start).each_leaf hleaf h other
  · cases hmem with
    | mapping hentries =>
      rw [decodeSequence_mapping, Outcome.map_eq_done_iff] at h
      obtain ⟨ws, hws, rfl⟩ := h
      rw [Document.singlePaths_mapping hne]
      refine hrow (Document.entryPaths_ne_nil hne) ?_
      rw [Document.entryPaths_eq, Outcome.each_flatMap]
      refine Outcome.each_eq_done_of_forall ?_ hws
      intro e he vs ws hstep
      obtain ⟨text, index, hkey, hindex, helement⟩ := indexStep_eq_done_iff.1 hstep
      exact indexStep_splits hds (hentries e he) (fun path => keyText_eq_ok_of_path path hkey)
        (fun path => sequenceIndex_eq_ok_iff.2 (sequenceIndex_eq_ok_iff.1 hindex)) helement other
  · cases hmem with
    | sequence hlength hitems =>
      rw [decodeSequence_sequence, Outcome.map_eq_done_iff] at h
      obtain ⟨ws, hws, rfl⟩ := h
      rw [Document.singlePaths_sequence hne]
      refine hrow (Document.itemPaths_ne_nil hne) ?_
      rw [Document.itemPaths_eq, Outcome.each_flatMap]
      refine Outcome.each_eq_done_of_forall ?_ hws
      intro e he vs ws helement
      have hlt : e.2 < items.length := by simpa using List.snd_lt_add_of_mem_zipIdx he
      exact indexStep_splits hds (hitems _ (List.fst_mem_of_mem_zipIdx he)) (fun _ => rfl)
        (sequenceIndex_toString (by omega)) helement other

/-! ### Types -/

theorem Shape.splits (shape : Shape) :
    shape.decode.Splits ∧ shape.build.Splits shape.decode := by
  induction shape using Shape.induction with
  | leaf kind => exact ⟨decodeLeaf_splits kind, buildLeaf_splits kind⟩
  | option item ih =>
    obtain ⟨hd, hb⟩ := item.ignoresPath
    exact ⟨decodeOption_splits hd hb ih.1 ih.2, buildOption_splits hb ih.2⟩
  | sequence item ih =>
    have hd : (Shape.sequence item).decode.Splits :=
      decodeSequence_splits item.ignoresPath.1 ih.1 item.start
    exact ⟨hd, hd.seeded _⟩
  | record fields ih =>
    have hd : (Shape.record fields).decode.Splits :=
      decodeRecord_splits (Shape.record fields).ignoresPath.1 fun f hf => (ih f hf).1
    exact ⟨hd, hd.seeded _⟩

/-- A document that can be decoded can be decoded path by path, from any location and as overrides
under any names, and leaves the same. -/
theorem Shape.decode_singlePaths {shape : Shape} {v v' : Value} {d : Document} {path : String}
    (hmem : d.InMemory) (h : shape.decode v d path = .done v') :
    (∀ other, Outcome.each (fun v x => shape.decode v x other) v d.singlePaths = .done v') ∧
      ∀ os : List Override, os.map Override.document = d.singlePaths →
        Override.applyAll shape v os = .done v' := by
  have hpaths := shape.splits.1 v d path v' hmem h
  refine ⟨hpaths, fun os hos => ?_⟩
  have hall := hpaths ""
  rw [← hos, Decoder.each, Outcome.each_map] at hall
  exact Outcome.each_eq_done_of_forall
    (fun o _ v v' hv => Outcome.mapError_eq_done_iff.2 hv) hall

/-- An option that is built, an index that grows a sequence, and null items, path by path. -/
theorem decode_singlePaths_modules :
    let module : Shape := .record (.plain "name" (.leaf .string) (.scalar (.text "main")) <|
      .plain "gauge" (.option (.leaf (.integer .i64))) .unset .nil)
    let shape : Shape := .record (.plain "base" (.option module) .unset <|
      .plain "modules" (.sequence module) (.items []) .nil)
    let d : Document := .mapping [
      (.string "Base", .mapping
        [(.string "gauge", .number (.integer 5)), (.string "name", .bool true)]),
      (.string "modules", .sequence [.null, .mapping [(.string "gauge", .string " 7 ")]])]
    let v : Value := .record [
      .set (.record [.scalar (.text "1"), .set (.scalar (.integer 5))]),
      .items [.record [.scalar (.text "main"), .unset],
        .record [.scalar (.text "main"), .set (.scalar (.integer 7))]]]
    shape.decode shape.start d "" = .done v ∧
      Outcome.each (fun v x => shape.decode v x "here") shape.start d.singlePaths = .done v := by
  intro module shape d v
  have h : shape.decode shape.start d "" = .done v := by rfl
  have hbase : (Document.mapping [(.string "gauge", .number (.integer 5)),
      (.string "name", .bool true)]).InMemory := by
    refine .mapping ?_
    simp only [List.forall_mem_cons]
    exact ⟨.number, .bool, by simp⟩
  have hmodules : (Document.sequence
      [.null, .mapping [(.string "gauge", .string " 7 ")]]).InMemory := by
    refine .sequence (by decide) ?_
    simp only [List.forall_mem_cons]
    refine ⟨.null, .mapping ?_, by simp⟩
    rw [List.forall_mem_singleton]
    exact .string (by decide)
  have hmem : d.InMemory := by
    refine .mapping ?_
    simp only [List.forall_mem_cons]
    exact ⟨hbase, hmodules, by simp⟩
  exact ⟨h, (Shape.decode_singlePaths hmem h).1 "here"⟩

end Schema

end LayeredConfig
